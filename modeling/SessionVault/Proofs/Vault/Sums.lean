import SessionVault.Proofs.Vault.Atomic

/-!
# Sums of instants and lifetimes

Away from leap seconds a sum is that of integers, cut off at the last instant, whichever of its two limits is met first:
a span may be too long to be added, and a sum may lie beyond the last instant.  So it does not matter in which order a
session is extended, and an entry of a keyspace lasts exactly as long as the record in it.

* `Duration.plus` — the sum of two spans, at most the longest one;
* `Instant.add_plus`, `Instant.add_right_comm` — spans that are added one after the other;
* `Instant.not_before_add_add` — later instants and longer spans have later sums;
* `Vault.leaves_plan`, `Vault.shown_of_writable` — what a call that writes leaves in a keyspace, and until when;
* `Instant.sums_exact` — all of this as one law.
-/

namespace SessionVault

/-- The sum of two spans, at most the longest one. -/
def Duration.plus (a b : Duration) : Duration := ⟨min (a.nanos + b.nanos) Duration.longest.nanos⟩

namespace Instant

variable {t t' : Instant} {d d' : Duration}

/-! ### Sums one after the other -/

/-- The longest span leads beyond the last instant, from wherever it is added. -/
theorem latest_lt_longest (t : Instant) : latest.total < t.total + Duration.longest.nanos := by
  have hbeyond := latest_lt_add_longest t
  have hle : Duration.longestAddable.nanos ≤ Duration.longest.nanos := by decide
  omega

/-- Two spans one after the other come to their sum, even where that is cut off. -/
theorem add_plus (h : t.Plain) (a b : Duration) : (t.add a).add b = t.add (a.plus b) := by
  have ha := plain_add h a
  apply eq_of_total (plain_add ha b) (plain_add h _)
  have hlongest := latest_lt_longest t
  have hplus : (a.plus b).nanos = min (a.nanos + b.nanos) Duration.longest.nanos := rfl
  rw [total_add ha, total_add h, total_add h, hplus]
  omega

theorem add_right_comm (h : t.Plain) (a b : Duration) : (t.add a).add b = (t.add b).add a := by
  have hplus : a.plus b = b.plus a := by
    simp only [Duration.plus, Nat.add_comm]
  rw [add_plus h, add_plus h, hplus]

/-- A later instant and a longer span have no earlier sum. -/
theorem not_before_add_add (h : t.Plain) (h' : t'.Plain) (hle : t'.before t = false) (hd : d.nanos ≤ d'.nanos) :
    (t'.add d').before (t.add d) = false := by
  rw [Bool.eq_false_iff, Ne, before_iff_total h' h] at hle
  rw [Bool.eq_false_iff, Ne, before_iff_total (plain_add h' d') (plain_add h d), total_add h', total_add h]
  omega

/-- Something is left until every later instant, and added to the clock it leads there. -/
theorem exists_remaining (h : t.Plain) {now : Instant} (hn : now.Plain) (hlater : now.before t = true) :
    ∃ left, t.remaining now = some left ∧ now.add left = t := by
  rw [before_iff_total hn h] at hlater
  have hleft : t.remaining now = some ⟨(t.total - now.total).toNat⟩ := by
    apply (remaining_eq_some_iff h hn).mpr
    simp only
    omega
  exact ⟨_, hleft, add_remaining h hn hleft⟩

end Instant

/-! ### Entries that last as long as their records -/

namespace Vault

variable {v : Vault} {s : Session} {c : Lifecycle}

/-- The request of a call that writes leaves an entry under the key of the session behind it, for the lifetime that is
worth writing. -/
theorem leaves_plan {now : Instant} {entropy : Entropy} {p : Plan} {ttl : Duration} (hc : c ≠ .destroy)
    (h : v.plan now entropy s c = .ok p) (httl : writableTtl s.record.expiresAt now = .ok ttl) :
    ∃ text, (∀ key, p.request ≠ .get key) ∧
      p.request.leaves now (v.key p.session.name p.session.id) = some (some ⟨text, now.add ttl⟩) := by
  obtain ⟨text, ⟨-, hrequest⟩ | ⟨-, hrequest⟩⟩ := request_of_plan hc h httl
  · rw [hrequest]
    exact ⟨text, fun key => Request.noConfusion, if_pos rfl⟩
  · rw [hrequest]
    exact ⟨text, fun key => Request.noConfusion, if_pos rfl⟩

/-- A call that writes a session with a lifetime worth writing succeeds over a keyspace, and the entry that it leaves
expires with the record. -/
theorem shown_of_writable {w : World Keyspace} (hs : w.session = some s) (hc : c ≠ .destroy) (hk : w.store.Ascending)
    (he : s.record.expiresAt.Plain) (hn : w.clock.Plain) (h : Writable s.record.expiresAt w.clock) :
    ∃ s' text w', (v.lifecycle c).run Keyspace.reply w = (.ok (), w') ∧ w'.session = some s' ∧
      w'.store.shown (v.key s'.name s'.id) w.clock = some ⟨text, s.record.expiresAt⟩ := by
  obtain ⟨ttl, httl, hend⟩ := writableTtl_of_writable he hn h
  obtain ⟨p, hplan⟩ := exists_plan v c w.entropy httl
  obtain ⟨text, hput, hleaves⟩ := leaves_plan hc hplan httl
  have hreply : (Keyspace.reply w.store w.clock p.request).1 = .ok none := w.store.answer_of_ne_get w.clock hput
  have hrun : (v.lifecycle c).run Keyspace.reply w = _ := run_of_plan hs hplan
  simp only [hreply] at hrun
  refine ⟨p.session, text, _, hrun, rfl, ?_⟩
  show (w.store.answer w.clock p.request).2.1.shown _ _ = _
  have hlive : w.clock.before s.record.expiresAt = true := by
    rw [Writable] at h
    rw [Instant.before_iff_total hn he]
    omega
  rw [Keyspace.shown_answer hk, hleaves, hend]
  exact Entry.filter_of_isLive hlive

end Vault

/-! ### The law of sums -/

namespace Instant

/-- For every instant away from leap seconds, with spans of any length:

A span later is the exact sum, or the last instant where that is beyond it; a span is too long to be added from 63 bits
of milliseconds on, and there is nothing a span later exactly if the sum is beyond the last instant.  A session that
expires then and is extended twice, in either order, expires as if it was extended by the sum of the two.  Sums keep the
order of instants and of spans.  What is left until then from an earlier clock leads there when it is added to the
clock.  So a call that writes a session that expires then leaves an entry of a keyspace that expires then. -/
theorem sums_exact {t : Instant} (ht : t.Plain) :
    (∀ d : Duration, (t.add d).Plain ∧ (t.add d).total = min (t.total + d.nanos) latest.total ∧
      (d.addable? = none ↔ 0x7FFFFFFFFFFFFFFF * 1000000 < d.nanos) ∧
      (t.after? d = none ↔ latest.total < t.total + d.nanos)) ∧
    (∀ (s : Session) (a b : Duration) (now later : Instant), s.record.expiresAt = t →
      ((s.extend a now).extend b later).record.expiresAt = (s.extend (a.plus b) now).record.expiresAt ∧
        ((s.extend b now).extend a later).record.expiresAt = (s.extend (a.plus b) now).record.expiresAt) ∧
    (∀ (t' : Instant) (d d' : Duration), t'.Plain → t'.before t = false → d.nanos ≤ d'.nanos →
      (t'.add d').before (t.add d) = false) ∧
    (∀ now : Instant, now.Plain → now.before t = true → ∃ left, t.remaining now = some left ∧ now.add left = t) ∧
    (∀ (v : Vault) (c : Lifecycle) (w : World Keyspace) (s : Session), c ≠ .destroy → w.session = some s →
      w.store.Ascending → w.clock.Plain → s.record.expiresAt = t → Vault.Writable t w.clock →
      ∃ s' text w', (v.lifecycle c).run Keyspace.reply w = (.ok (), w') ∧ w'.session = some s' ∧
        w'.store.shown (v.key s'.name s'.id) w.clock = some ⟨text, t⟩) := by
  refine ⟨?_, ?_, ?_, ?_, ?_⟩
  · intro d
    exact ⟨plain_add ht d, total_add ht d, addable?_eq_none_iff, after?_eq_none_iff ht⟩
  · intro s a b now later hs
    subst hs
    exact ⟨add_plus ht a b, (add_right_comm ht b a).trans (add_plus ht a b)⟩
  · intro t' d d' ht' hle hd
    exact not_before_add_add ht ht' hle hd
  · intro now hn hlater
    exact exists_remaining ht hn hlater
  · intro v c w s hc hs hk hn hexpires hwritable
    subst hexpires
    exact Vault.shown_of_writable hs hc hk ht hn hwritable

/-- An instant a second before the end of time, but for a nanosecond. -/
def lastSecond : Instant := (ofParts? 8210266876799 0).getD latest

def lastSession : Session := .ofRecord ⟨Vault.sampleId, "sid", [], .epoch, .epoch, lastSecond⟩

/-- Half a second fits in front of the end; a minute does not, and the longest span is not even tried. -/
theorem sums_exact_sample :
    lastSecond.Plain ∧ (lastSecond.add (.ofMillis 500)).total = lastSecond.total + 500000000 ∧
      lastSecond.add (.ofSeconds 60) = latest ∧ lastSecond.after? (.ofSeconds 60) = none ∧
      lastSecond.add .longest = latest ∧ Duration.longest.addable? = none ∧
      ((lastSession.extend (.ofMillis 500) .epoch).extend (.ofMillis 700) .epoch).record.expiresAt = latest := by
  have hplain : lastSecond.Plain := by decide
  obtain ⟨hsum, hextended, -, -, -⟩ := sums_exact hplain
  have hlatest : ∀ d : Duration, latest.total < lastSecond.total + d.nanos → lastSecond.add d = latest := by
    intro d hd
    obtain ⟨hd', htotal, -, -⟩ := hsum d
    apply eq_of_total hd' plain_latest
    rw [htotal]
    omega
  refine ⟨hplain, (hsum _).2.1.trans (by decide), hlatest _ (by decide), (hsum _).2.2.2.mpr (by decide),
    hlatest _ (by decide), (hsum _).2.2.1.mpr (by decide), ?_⟩
  exact (hextended lastSession _ _ .epoch .epoch rfl).1.trans
    (hlatest (.plus (.ofMillis 500) (.ofMillis 700)) (by decide))

end Instant

end SessionVault
