import SessionVault.Proofs.Vault.Expiry
import SessionVault.Proofs.Vault.Resolve

/-!
# New sessions can be stored

A new session lives for the default lifetime of its policy, up to the last instant at most.  If the policy is accepted
and the clock is a millisecond short of the last instant, the session has not expired at once, and it can be stored if
its lifetime is worth writing: a millisecond at least.

* `Policy.check_eq_ok_iff` — which policies are accepted, and `Policy.wholeSeconds_of_ofSettings` — what settings can say;
* `Session.remaining_start` — what is left of a new session;
* `persist_start` — whether it can be stored;
* `fresh_storable_iff` — all of this for the session that a resolve makes.
-/

namespace SessionVault

/-! ### Accepted policies -/

namespace Policy

variable {p : Policy}

theorem check_eq_ok_iff : p.check = .ok () ↔ 0 < p.defaultTtl.nanos ∧ p.defaultTtl.nanos ≤ p.maxTtl.nanos := by
  rw [check]
  simp only [Duration.isZero, beq_iff_eq]
  split
  · simp only [reduceCtorEq, false_iff]
    omega
  · split
    · simp only [reduceCtorEq, false_iff]
      omega
    · simp only [true_iff]
      omega

/-- Where none is asked for, the lifetime of an accepted policy is the default one. -/
theorem effectiveTtl_none (h : p.check = .ok ()) : p.effectiveTtl none = p.defaultTtl := by
  obtain ⟨-, hle⟩ := check_eq_ok_iff.mp h
  rw [effectiveTtl, Option.getD_none, Nat.min_eq_left hle]

theorem ofSettings_eq_ok {settings : Table String} (h : ofSettings settings = .ok p) :
    p.check = .ok () ∧ p.defaultTtl = (seconds? settings "SESSION_TTL_SECS").getD ({} : Policy).defaultTtl := by
  rw [ofSettings] at h
  generalize hcheck : check _ = checked at h
  cases checked with
  | error fault => cases h
  | ok x =>
    cases h
    exact ⟨hcheck, rfl⟩

/-- Settings say whole seconds, and so an accepted policy of settings has a second at least. -/
theorem wholeSeconds_of_ofSettings {settings : Table String} (h : ofSettings settings = .ok p) :
    Duration.perSecond ≤ p.defaultTtl.nanos := by
  obtain ⟨hcheck, hdefault⟩ := ofSettings_eq_ok h
  obtain ⟨hpos, -⟩ := check_eq_ok_iff.mp hcheck
  have hwhole : ∃ n, p.defaultTtl = .ofSeconds n := by
    rw [hdefault, seconds?]
    cases (settings.get? "SESSION_TTL_SECS").bind (Natural.read? 64) with
    | none => exact ⟨86400 * 30, rfl⟩
    | some n => exact ⟨n, rfl⟩
  obtain ⟨n, hn⟩ := hwhole
  rw [hn, Duration.ofSeconds] at hpos ⊢
  exact Nat.le_mul_of_pos_left _ (Nat.pos_of_mul_pos_right hpos)

end Policy

/-! ### New sessions -/

namespace Session

open Instant

variable {id name : String} {ttl : Duration} {now : Instant}

/-- A new session has not expired if it has a lifetime and the clock is short of the last instant. -/
theorem isExpired_start (hn : now.Plain) (httl : 0 < ttl.nanos) (hroom : now.total < latest.total) :
    (start id name ttl now).isExpired now = false := by
  have hlive : now.before (now.add ttl) = true := by
    rw [before_iff_total hn (plain_add hn ttl), total_add hn]
    omega
  rw [isExpired, start, hlive]
  rfl

/-- What is left of a new session is its lifetime, up to the last instant. -/
theorem remaining_start (hn : now.Plain) (httl : 0 < ttl.nanos) (hroom : now.total < latest.total) :
    ∃ left, (start id name ttl now).remaining now = some left ∧
      (left.nanos : Int) = min (ttl.nanos : Int) (latest.total - now.total) := by
  refine ⟨⟨(min (ttl.nanos : Int) (latest.total - now.total)).toNat⟩, ?_, ?_⟩
  · refine (remaining_eq_some_iff (plain_add hn ttl) hn).mpr ?_
    show now.total < (now.add ttl).total ∧ (_ : Int) = (now.add ttl).total - now.total
    rw [total_add hn]
    dsimp only
    omega
  · show (((min (ttl.nanos : Int) (latest.total - now.total)).toNat : Nat) : Int) = _
    omega

end Session

namespace Vault

variable {v : Vault}

theorem make_eq_ok {envelope : Envelope} {policy : Policy} {backend : String} {line : Note}
    (h : make envelope policy backend = .ok (v, line)) : policy.check = .ok () ∧ v = ⟨envelope, policy⟩ := by
  rw [make] at h
  cases hcheck : policy.check with
  | error fault =>
    rw [hcheck] at h
    cases h
  | ok x =>
    rw [hcheck] at h
    cases h
    exact ⟨rfl, rfl⟩

/-- A new session is worth writing from a millisecond on. -/
theorem writable_start {ttl : Duration} {now : Instant} (hn : now.Plain)
    (hroom : now.total + 1000000 ≤ Instant.latest.total) : Writable (now.add ttl) now ↔ 1 ≤ ttl.millis := by
  rw [Writable, Instant.total_add hn, Duration.millis]
  omega

/-- A new session is stored in a keyspace while the clock stands still, if its lifetime is worth writing. -/
theorem persist_start {id name : String} {ttl : Duration} {w : World Keyspace} (hn : w.clock.Plain)
    (hroom : w.clock.total + 1000000 ≤ Instant.latest.total)
    (hs : w.session = some (Session.start id name ttl w.clock)) :
    (v.persist.run Keyspace.reply w).1 = if 1 ≤ ttl.millis then .ok () else .error .expired := by
  have hexpiry := Instant.plain_add hn ttl
  split
  · next hwhole =>
    obtain ⟨left, hleft, -⟩ := writableTtl_of_writable hexpiry hn ((writable_start hn hroom).mpr hwhole)
    rw [run_persist hs hleft]
    rfl
  · next hshort =>
    rw [run_persist_of_error hs (writableTtl_of_not_writable hexpiry hn (mt (writable_start hn hroom).mp hshort))]

/-- With an accepted policy, over a keyspace and under a clock that reads no leap second and is a millisecond short of
the last instant: a resolve with no identifier makes a session that has not expired and lives no longer than the greatest
lifetime.  It can be stored while the clock stands still exactly if the default lifetime is a millisecond at least, and
that of a policy from settings is. -/
theorem fresh_storable_iff {envelope : Envelope} {policy : Policy} {line : Note}
    (hmake : make envelope policy Keyspace.name = .ok (v, line)) (name : String) {w : World Keyspace}
    (hn : w.clock.Plain) (hroom : w.clock.total + 1000000 ≤ Instant.latest.total) :
    ∃ s w', (v.resolve none name).run Keyspace.reply w = (.ok s, w') ∧ w'.clock = w.clock ∧
      s.isExpired w.clock = false ∧
      (∃ left, s.remaining w.clock = some left ∧ left.nanos ≤ policy.maxTtl.nanos) ∧
      (∀ later : World Keyspace, later.clock = w.clock → later.session = some s →
        (v.persist.run Keyspace.reply later).1 =
          if 1 ≤ policy.defaultTtl.millis then .ok () else .error .expired) ∧
      ∀ settings, Policy.ofSettings settings = .ok policy → 1 ≤ policy.defaultTtl.millis := by
  obtain ⟨hcheck, rfl⟩ := make_eq_ok hmake
  obtain ⟨hpos, hle⟩ := Policy.check_eq_ok_iff.mp hcheck
  have hearly : w.clock.total < Instant.latest.total := by omega
  have hmade : (create ⟨envelope, policy⟩ name none).run Keyspace.reply w = _ := run_create _ _ _ _
  rw [Policy.effectiveTtl_none hcheck] at hmade
  refine ⟨_, _, hmade, rfl, Session.isExpired_start hn hpos hearly, ?_, ?_, ?_⟩
  · obtain ⟨left, hleft, hnanos⟩ := Session.remaining_start hn hpos hearly
    exact ⟨left, hleft, by omega⟩
  · -- Whatever the store holds by then, the answer to what is put into it is no failure.
    intro later hclock hs
    rw [← hclock] at hn hroom hs
    exact persist_start hn hroom hs
  · intro settings hsettings
    have hsecond := Policy.wholeSeconds_of_ofSettings hsettings
    rw [Duration.perSecond] at hsecond
    rw [Duration.millis]
    omega

/-- An instant with less than two seconds behind it. -/
def lastMoment : Instant := ⟨8210266876798, 500000000, by decide, by decide, by decide, fun h => absurd h (by decide)⟩

/-- With the default policy, whose lifetime ends long behind the last instant, a new session is stored. -/
theorem fresh_storable_sample :
    (∃ line, make sample.envelope sample.policy Keyspace.name = .ok (sample, line)) ∧
      lastMoment.Plain ∧ lastMoment.total + 1000000 ≤ Instant.latest.total ∧
      ∃ s, ((sample.resolve none "sid").run Keyspace.reply ⟨lastMoment, sampleEntropy, {}, none⟩).1 = .ok s ∧
        s.isExpired lastMoment = false ∧
        (sample.persist.run Keyspace.reply ⟨lastMoment, sampleEntropy, {}, some s⟩).1 = .ok () := by
  have hn : lastMoment.Plain := by decide
  have hroom : lastMoment.total + 1000000 ≤ Instant.latest.total := by decide
  have hmake : make sample.envelope sample.policy Keyspace.name = .ok (sample, _) := rfl
  obtain ⟨s, w', hresolve, -, hlive, -, hpersist, -⟩ := fresh_storable_iff hmake "sid"
    (w := ⟨lastMoment, sampleEntropy, {}, none⟩) hn hroom
  exact ⟨⟨_, rfl⟩, hn, hroom, s, congrArg Prod.fst hresolve, hlive,
    hpersist ⟨lastMoment, sampleEntropy, {}, some s⟩ rfl rfl⟩

/-- A policy with a default lifetime of half a millisecond is accepted, and no new session of it can be stored. -/
theorem halfMillisecond_not_stored :
    ∃ v line, make sample.envelope { defaultTtl := ⟨500000⟩ } Keyspace.name = .ok (v, line) ∧
      ∃ s, ((v.resolve none "sid").run Keyspace.reply ⟨.epoch, sampleEntropy, {}, none⟩).1 = .ok s ∧
        (v.persist.run Keyspace.reply ⟨.epoch, sampleEntropy, {}, some s⟩).1 = .error .expired := by
  have hroom : Instant.epoch.total + 1000000 ≤ Instant.latest.total := by decide
  have hmade : (create ⟨sample.envelope, { defaultTtl := ⟨500000⟩ }⟩ "sid" none).run Keyspace.reply
      ⟨.epoch, sampleEntropy, {}, none⟩ = _ := run_create _ _ _ _
  refine ⟨⟨sample.envelope, { defaultTtl := ⟨500000⟩ }⟩, _, rfl, _, congrArg Prod.fst hmade, ?_⟩
  have hcheck : Policy.check { defaultTtl := ⟨500000⟩ } = .ok () := rfl
  rw [Policy.effectiveTtl_none hcheck]
  refine (persist_start (w := ⟨.epoch, sampleEntropy, {}, _⟩) Instant.plain_epoch hroom rfl).trans ?_
  exact if_neg (by decide)

end Vault

end SessionVault
