import SessionVault.Proofs.Vault.Atomic

/-!
# When a session has expired

Two things decide that a session is over: the order of its expiry and the clock (`Session.isExpired`, and a search), and
what is left between the two (`Session.remaining`, and every call that writes).  They agree but where a leap second at
the end of a day meets the second behind it (`Instant.Torn`):

* `remaining_eq_none_iff_isExpired` — nothing is left exactly if the session has expired;
* `run_load_of_record` — a search rejects a record exactly if its session has expired;
* `requests_eq_nil_iff` — a call writes from a whole millisecond on, whether the session has expired or not, and
  `isExpired_and_writable_iff` — the expired sessions with that much left;
* `expiry_decided` — all of this as one law.
-/

namespace SessionVault

open Program

theorem Session.isExpired_iff {s : Session} {now : Instant} :
    s.isExpired now = true ↔ ¬now.before s.record.expiresAt = true := by
  rw [isExpired, Bool.not_eq_true', Bool.not_eq_true]

/-- Nothing is left of a session exactly if it has expired, but where the difference has not the sign of the order. -/
theorem Session.remaining_eq_none_iff_isExpired (s : Session) (now : Instant) :
    (s.remaining now = none ↔ s.isExpired now = true) ↔ ¬s.record.expiresAt.Torn now := by
  rw [remaining, Instant.remaining_eq_none_iff, isExpired_iff, not_iff_not]
  exact Instant.since_pos_iff_of_not_torn

namespace Vault

variable {σ : Type} {answers : Answers σ} {v : Vault} {s : Session}

/-! ### Searches -/

/-- A search that is answered with a text of the session's own record gives the session, or cleans up if it has
expired: then it ends with the failure of the clean-up, or tells that the session has expired. -/
theorem run_load_of_record {w : World σ} {text : String} (hid : Identifier.isValid s.id = true)
    (hreply : (answers w.store w.clock (.get (v.key s.name s.id))).1 = .ok (some text))
    (hread : v.envelope.read Record.decoder text (associated s.name) = .ok s.record) :
    ((v.load s.name s.id).run answers w).1 =
      if s.isExpired w.clock then
        (answers (answers w.store w.clock (.get (v.key s.name s.id))).2 w.clock (.delete (v.key s.name s.id))).1.bind
          fun _ => .error .expired
      else .ok (Session.ofRecord s.record) := by
  have hbelongs : ¬(s.record.id ≠ s.id ∨ s.record.name ≠ s.name) := by simp [Session.id, Session.name]
  rw [load_eq, hid, Bool.not_true, if_neg Bool.false_ne_true, run, hreply, receive, ofExcept_ok]
  dsimp only
  rw [hread, ofExcept_ok, if_neg hbelongs, check, run]
  dsimp only
  rw [Session.isExpired]
  cases hlive : w.clock.before s.record.expiresAt with
  | true => rfl
  | false =>
    rw [if_neg Bool.false_ne_true, Bool.not_false, if_pos rfl, run, cleanup, run]
    dsimp only
    cases (answers (answers w.store w.clock (.get (v.key s.name s.id))).2 w.clock (.delete (v.key s.name s.id))).1 with
    | ok x => rfl
    | error f => rfl

/-! ### Calls that write -/

/-- A call that writes the session makes its request from a whole millisecond on. -/
theorem requests_eq_nil_iff {c : Lifecycle} (hc : c ≠ .destroy) {w : World σ} (hs : w.session = some s) :
    (v.lifecycle c).requests answers w = [] ↔ s.record.expiresAt.since w.clock < 1000000 := by
  cases hplan : v.plan w.clock w.entropy s c with
  | error f =>
    obtain ⟨-, -, hshort⟩ := plan_eq_error_iff.mp hplan
    exact iff_of_true (requests_of_unplanned hs hplan) hshort
  | ok p =>
    rw [requests_of_plan hs hplan]
    refine iff_of_false (List.cons_ne_nil _ _) ?_
    intro hshort
    rw [plan_eq_error_iff.mpr ⟨rfl, hc, hshort⟩] at hplan
    cases hplan

/-- An expired session has a whole millisecond left exactly if it expires in a leap second at the end of a day, and the
clock is in the second behind it and is a millisecond short of where the expiry is in its own. -/
theorem isExpired_and_writable_iff (s : Session) (now : Instant) :
    s.isExpired now = true ∧ ¬s.record.expiresAt.since now < 1000000 ↔
      s.record.expiresAt.Overlaps now ∧ now.nanos + 1001000000 ≤ s.record.expiresAt.nanos := by
  rw [Session.isExpired_iff]
  constructor
  · rintro ⟨hpast, hlong⟩
    have htorn : s.record.expiresAt.Torn now := by
      by_contra h
      exact hpast ((Instant.since_pos_iff_of_not_torn.mpr h).mp (by omega))
    rcases htorn with ⟨hover, -⟩ | ⟨hover, -⟩
    · rw [hover.since] at hlong
      exact ⟨hover, by omega⟩
    · exact absurd hover.before hpast
  · rintro ⟨hover, hleft⟩
    rw [hover.not_before, hover.since]
    exact ⟨Bool.false_ne_true, by omega⟩

/-! ### The law of expiry -/

/-- At every instant, nothing is left of a session exactly if it has expired, and a search that is answered with a text
of its record rejects it exactly then — but for the instants torn from its expiry, where what is left and the order
disagree.  A call that writes sessions, over any store, writes an expired one exactly if the expiry is in a leap second
at the end of a day, and the clock is in the second behind it with a millisecond left to where the expiry is. -/
theorem expiry_decided (v : Vault) (s : Session) (now : Instant) :
    ((s.remaining now = none ↔ s.isExpired now = true) ↔ ¬s.record.expiresAt.Torn now) ∧
      (∀ {σ : Type} (answers : Answers σ) (w : World σ) (text : String), w.clock = now →
        Identifier.isValid s.id = true →
        (answers w.store now (.get (v.key s.name s.id))).1 = .ok (some text) →
        v.envelope.read Record.decoder text (associated s.name) = .ok s.record →
        ((v.load s.name s.id).run answers w).1 =
          if s.isExpired now then
            (answers (answers w.store now (.get (v.key s.name s.id))).2 now (.delete (v.key s.name s.id))).1.bind
              fun _ => .error .expired
          else .ok (Session.ofRecord s.record)) ∧
      (∀ {σ : Type} (answers : Answers σ) (w : World σ) (c : Lifecycle), w.clock = now → w.session = some s →
        c ≠ .destroy →
        (s.isExpired now = true ∧ (v.lifecycle c).requests answers w ≠ [] ↔
          s.record.expiresAt.Overlaps now ∧ now.nanos + 1001000000 ≤ s.record.expiresAt.nanos)) := by
  refine ⟨s.remaining_eq_none_iff_isExpired now, ?_, ?_⟩
  · intro σ answers w text hclock hid hreply hread
    subst hclock
    exact run_load_of_record hid hreply hread
  · intro σ answers w c hclock hs hc
    subst hclock
    rw [Ne, requests_eq_nil_iff hc hs]
    exact isExpired_and_writable_iff s w.clock

/-! ### A session that expires in a leap second -/

/-- Half a second into the leap second at the end of a year. -/
def leapExpiry : Instant := ⟨1735689599, 1500000000, by decide, by decide, by decide, fun _ => rfl⟩

def afterLeap : Instant := ⟨1735689600, 200000000, by decide, by decide, by decide, fun h => absurd h (by decide)⟩

def leapRecord : Record := ⟨sampleId, "sid", [], .epoch, .epoch, leapExpiry⟩

def leapText : String := sample.wrap (sampleEntropy.draw Algorithm.aes256Gcm.nonceSize).1 leapRecord

/-- A store that holds the record behind the leap second, with the session that it was loaded as. -/
def leapWorld : World Keyspace where
  clock := afterLeap
  entropy := sampleEntropy
  store := ({} : Keyspace).store (sample.key "sid" sampleId) ⟨leapText, Instant.latest⟩
  session := some (Session.ofRecord leapRecord)

/-- The session is written, and a search that finds its record rejects it. -/
theorem expiry_decided_leap :
    ((sample.load "sid" sampleId).run Keyspace.reply leapWorld).1 = .error .expired ∧
      (sample.lifecycle .persist).requests Keyspace.reply leapWorld ≠ [] := by
  obtain ⟨-, hload, hwrite⟩ := expiry_decided sample (Session.ofRecord leapRecord) afterLeap
  have hheld : leapWorld.store.entries.get? (sample.key "sid" sampleId) = some ⟨leapText, Instant.latest⟩ := by
    rw [leapWorld, Keyspace.store, Table.get?_insert, if_pos rfl]
  have hreply : (Keyspace.reply leapWorld.store afterLeap (.get (sample.key "sid" sampleId))).1 =
      .ok (some leapText) := by
    rw [Keyspace.reply, Keyspace.answer_get, Keyspace.shown, hheld]
    rfl
  have hread : sample.envelope.read Record.decoder leapText (associated "sid") = .ok leapRecord :=
    sample.read_wrap_of_nil (Entropy.length_draw _ _) rfl
  have hover : leapExpiry.Overlaps afterLeap := ⟨rfl, by decide, by decide⟩
  refine ⟨(hload Keyspace.reply leapWorld leapText rfl (Identifier.isValid_ofOctets rfl) hreply hread).trans rfl, ?_⟩
  exact ((hwrite Keyspace.reply leapWorld .persist rfl rfl (fun h => by cases h)).mpr ⟨hover, by decide⟩).2

theorem writableTtl_leap : writableTtl leapExpiry afterLeap = .ok ⟨300000000⟩ := rfl

/-- A session of a record that a text holds has expired, has three tenths of a second left, and is written. -/
theorem leap_expired_written :
    (∃ text, decode Record.decoder text = .ok leapRecord) ∧
      (Session.ofRecord leapRecord).isExpired afterLeap = true ∧
      (Session.ofRecord leapRecord).remaining afterLeap = some ⟨300000000⟩ ∧
      ∃ text, sample.persist.requests Keyspace.reply
        ⟨afterLeap, sampleEntropy, {}, some (Session.ofRecord leapRecord)⟩ =
          [.put (sample.key "sid" sampleId) text ⟨300000000⟩] := by
  have hread : leapRecord.reread = .ok leapRecord :=
    (Record.reread_eq_self_iff leapRecord).mpr (Record.settled_of_nil rfl)
  rw [Decoder.eq_ok_iff, Record.toOption_reread, ← Decoder.eq_ok_iff] at hread
  have hplan : sample.plan afterLeap sampleEntropy (Session.ofRecord leapRecord) .persist =
      (writableTtl leapExpiry afterLeap).map fun ttl =>
        let drawn := sampleEntropy.draw sample.envelope.cipher.algorithm.nonceSize
        ⟨.put (sample.key "sid" sampleId) (sample.wrap drawn.1 leapRecord) ttl, drawn.2,
          Session.ofRecord leapRecord⟩ := rfl
  rw [writableTtl_leap] at hplan
  have hsent : (sample.lifecycle .persist).requests Keyspace.reply
      ⟨afterLeap, sampleEntropy, {}, some (Session.ofRecord leapRecord)⟩ = _ := requests_of_plan rfl hplan
  exact ⟨⟨_, hread⟩, rfl, rfl, _, hsent⟩

end Vault

end SessionVault
