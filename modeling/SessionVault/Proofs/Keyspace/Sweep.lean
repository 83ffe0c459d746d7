import SessionVault.Proofs.Keyspace.Archive

/-!
# Entries past their expiry do not pile up

Every 64th write sweeps a keyspace, and puts and replacements are counted together from the first one on.  So wherever
the count stands, one of any 64 writes in a row sweeps, and it sweeps behind whatever had expired before the first of
them.  An entry that nobody writes again is gone by then.

* `Keyspace.behind`, `Archive.behind` — a keyspace and an archive behind a run of acts;
* `get?_act` — what is held behind an act that does not write its key was held before, until the same instant;
* `isLive_of_sweeps` — what is held behind the write that sweeps is not past its expiry;
* `get?_behind_of_sweeps` — what a run with enough writes leaves of an entry past its expiry;
* `Alike.behind` — what is not past its expiry is left where it is;
* `expired_swept` — the law of sweeps.
-/

namespace SessionVault

/-! ### Runs and their writes -/

def Keyspace.behind (k : Keyspace) (ms : List Moment) : Keyspace :=
  ms.foldl (fun k m => (k.act m.now m.later m.act).2) k

def Archive.behind (l : Archive) (ms : List Moment) : Archive := ms.foldl (fun l m => (l.act m.now m.act).2) l

/-- What the clock has shown last behind a run that starts at an instant. -/
def clockBehind : Instant → List Moment → Instant
  | t, [] => t
  | _, m :: ms => clockBehind m.later ms

/-- The key that an act writes an entry under. -/
def Keyspace.Act.target? : Keyspace.Act → Option String
  | .ask r => r.target?
  | _ => none

def writeCount (ms : List Moment) : Nat := ms.countP fun m => m.act.target?.isSome

namespace Keyspace

variable {k : Keyspace} {now later : Instant} {a : Act} {key : String}

/-! ### One act -/

theorem writes_countWrite (k : Keyspace) (now : Instant) : (k.countWrite now).1.writes = k.writes + 1 := by
  rw [countWrite]
  dsimp only
  split <;> rfl

/-- An act that writes is counted, and no other. -/
theorem writes_act (k : Keyspace) (now later : Instant) (a : Act) :
    (k.act now later a).2.writes = k.writes + if a.target?.isSome then 1 else 0 := by
  cases a with
  | ask r =>
    cases r with
    | get key =>
      show (k.answerAt now later (.get key)).2.1.writes = k.writes
      rw [answerAt]
      split
      · rfl
      · split <;> rfl
    | put key text ttl => exact writes_countWrite _ _
    | delete key => rfl
    | replace old new text ttl =>
      refine (writes_countWrite _ _).trans ?_
      split <;> rfl
  | overwrite key text =>
    show (k.overwrite key text).2.writes = k.writes
    rw [overwrite]
    split <;> rfl
  | sweep => rfl
  | contains key => rfl
  | size => rfl
  | isEmpty => rfl

theorem ascending_act (h : k.Ascending) (hlater : later.before now = false) (a : Act) :
    (k.act now later a).2.Ascending :=
  ((show Alike k.entries k.entries now from ⟨h, h, fun _ => rfl⟩).act hlater a).2.held

/-- What is held behind an act that does not write its key was held before, with the same expiry.  Only its text may
have been overwritten. -/
theorem get?_act (h : k.Ascending) (hkey : a.target? ≠ some key) {e : Entry}
    (he : (k.act now later a).2.entries.get? key = some e) :
    ∃ e', k.entries.get? key = some e' ∧ e'.expiresAt = e.expiresAt := by
  cases a with
  | ask r =>
    rcases get?_answerAt h he with hleft | ⟨-, hheld⟩
    · exact absurd (Request.target?_of_leaves hleft) hkey
    · exact ⟨e, hheld, rfl⟩
  | overwrite key' text =>
    simp only [act, overwrite] at he
    split at he
    · next e' he' =>
      rw [Table.get?_insert] at he
      split at he
      · next heq =>
        cases he
        exact ⟨e', heq ▸ he', rfl⟩
      · exact ⟨e, he, rfl⟩
    · exact ⟨e, he, rfl⟩
  | sweep =>
    have hheld : Table.get? key (k.entries.filter fun e => e.2.isLive now) = some e := he
    rw [Table.get?_filter _ key h] at hheld
    exact ⟨e, (Option.filter_eq_some_iff.mp hheld).1, rfl⟩
  | contains key' => exact ⟨e, he, rfl⟩
  | size => exact ⟨e, he, rfl⟩
  | isEmpty => exact ⟨e, he, rfl⟩

/-- What is held behind the count of a write that sweeps is not past its expiry. -/
theorem isLive_of_countWrite (h : k.Ascending) (hsweeps : (k.writes + 1) % sweepInterval = 0) {e : Entry}
    (he : (k.countWrite later).1.entries.get? key = some e) : e.isLive later = true := by
  rw [countWrite] at he
  simp only [if_pos hsweeps] at he
  have hheld : Table.get? key (k.entries.filter fun e => e.2.isLive later) = some e := he
  rw [Table.get?_filter _ key h] at hheld
  exact (Option.filter_eq_some_iff.mp hheld).2

/-- What is held behind the write that sweeps is not past its expiry. -/
theorem isLive_of_sweeps (h : k.Ascending) (hwrite : a.target?.isSome = true)
    (hsweeps : (k.writes + 1) % sweepInterval = 0) {e : Entry}
    (he : (k.act now later a).2.entries.get? key = some e) : e.isLive later = true := by
  cases a with
  | ask r =>
    cases r with
    | get key' => cases hwrite
    | put key' text ttl => exact isLive_of_countWrite (ascending_store h key' _) hsweeps he
    | delete key' => cases hwrite
    | replace old new text ttl =>
      refine isLive_of_countWrite (ascending_moved h old new ⟨text, now.add ttl⟩) ?_ he
      split <;> exact hsweeps
  | overwrite key' text => cases hwrite
  | sweep => cases hwrite
  | contains key' => cases hwrite
  | size => cases hwrite
  | isEmpty => cases hwrite

/-! ### Runs -/

/-- Whatever is held under a key is past its expiry. -/
def Stale (k : Keyspace) (key : String) (t : Instant) : Prop :=
  ∀ e, k.entries.get? key = some e → e.isLive t = false

theorem Stale.mono {t t' : Instant} (h : k.Stale key t) (ht : t'.before t = false) : k.Stale key t' := by
  intro e he
  have hpast := h e he
  rw [Entry.isLive] at hpast ⊢
  rw [Bool.eq_false_iff]
  intro hlive
  rw [Instant.before_of_not_before_of_before ht hlive] at hpast
  cases hpast

/-- An act that does not write a key leaves nothing under it that is not past its expiry, if there was nothing. -/
theorem Stale.act {t : Instant} (h : k.Stale key t) (hk : k.Ascending) (hkey : a.target? ≠ some key) :
    (k.act now later a).2.Stale key t := by
  intro e he
  obtain ⟨e', he', hexpires⟩ := get?_act hk hkey he
  have hpast := h e' he'
  rw [Entry.isLive] at hpast ⊢
  rw [← hexpires]
  exact hpast

/-- A key that nothing is held under and that is not written stays without an entry. -/
theorem get?_act_eq_none (hk : k.Ascending) (hnone : k.entries.get? key = none) (hkey : a.target? ≠ some key) :
    (k.act now later a).2.entries.get? key = none := by
  cases he : (k.act now later a).2.entries.get? key with
  | none => rfl
  | some e =>
    obtain ⟨e', he', -⟩ := get?_act hk hkey he
    rw [hnone] at he'
    cases he'

theorem get?_behind_eq_none {t : Instant} {ms : List Moment} (hk : k.Ascending) (hforward : Forward t ms)
    (hnone : k.entries.get? key = none) (hkey : ∀ m ∈ ms, m.act.target? ≠ some key) :
    (k.behind ms).entries.get? key = none := by
  induction ms generalizing k t with
  | nil => exact hnone
  | cons m ms ih =>
    obtain ⟨-, hlater, hrest⟩ := hforward
    obtain ⟨hm, hms⟩ := List.forall_mem_cons.mp hkey
    exact ih (ascending_act hk hlater m.act) hrest (get?_act_eq_none hk hnone hm) hms

/-- Where the count of writes comes to a multiple of the interval in a run that does not write a key, nothing is left
under the key that was past its expiry when the run began. -/
theorem get?_behind_of_sweeps {t : Instant} {ms : List Moment} (hk : k.Ascending) (hforward : Forward t ms)
    (hstale : k.Stale key t) (hkey : ∀ m ∈ ms, m.act.target? ≠ some key)
    (hwrites : sweepInterval ≤ k.writes % sweepInterval + writeCount ms) : (k.behind ms).entries.get? key = none := by
  have hinterval : sweepInterval = 64 := rfl
  induction ms generalizing k t with
  | nil =>
    -- No write is left, and the count stands short of the interval.
    have hcount : writeCount ([] : List Moment) = 0 := rfl
    rw [hcount, hinterval] at hwrites
    omega
  | cons m ms ih =>
    obtain ⟨hnow, hlater, hrest⟩ := hforward
    obtain ⟨hm, hms⟩ := List.forall_mem_cons.mp hkey
    have hnext := ascending_act hk hlater m.act
    have hstale' := (hstale.mono hnow).mono hlater
    have hcounted := writes_act k m.now m.later m.act
    have hcons : writeCount (m :: ms) = writeCount ms + if m.act.target?.isSome then 1 else 0 := List.countP_cons
    show (((k.act m.now m.later m.act).2).behind ms).entries.get? key = none
    by_cases hsweeps : m.act.target?.isSome = true ∧ (k.writes + 1) % sweepInterval = 0
    · -- This write sweeps, and what it leaves under the key is both past its expiry and not.
      refine get?_behind_eq_none hnext hrest ?_ hms
      cases he : (k.act m.now m.later m.act).2.entries.get? key with
      | none => rfl
      | some e =>
        have hpast := hstale'.act hk hm e he
        rw [isLive_of_sweeps hk hsweeps.1 hsweeps.2 he] at hpast
        cases hpast
    · refine ih hnext hrest (hstale'.act hk hm) hms ?_
      rw [hcounted]
      rw [hcons] at hwrites
      rw [hinterval] at hsweeps hwrites ⊢
      split at hwrites
      · next hwrite =>
        rw [if_pos hwrite]
        have hshort : (k.writes + 1) % 64 ≠ 0 := fun hzero => hsweeps ⟨hwrite, hzero⟩
        omega
      · next hread =>
        rw [if_neg hread]
        omega

end Keyspace

/-! ### Nothing else is lost -/

/-- A run leaves a keyspace and an archive alike. -/
theorem Alike.behind {k : Keyspace} {l : Archive} {t : Instant} {ms : List Moment} (h : Alike k.entries l t)
    (hforward : Forward t ms) : Alike (k.behind ms).entries (l.behind ms) (clockBehind t ms) := by
  induction ms generalizing k l t with
  | nil => exact h
  | cons m ms ih =>
    obtain ⟨hnow, hlater, hrest⟩ := hforward
    exact ih ((h.mono hnow).act hlater m.act).2 hrest

/-- An entry of the archive that is not past its expiry is held by the keyspace too. -/
theorem Alike.get?_of_isLive {t l : Archive} {now : Instant} (h : Alike t l now) {key : String} {e : Entry}
    (he : l.get? key = some e) (hlive : e.isLive now = true) : t.get? key = some e := by
  have hshown : t.shown key now = some e := by
    rw [h.shown, Archive.shown, he]
    exact Entry.filter_of_isLive hlive
  exact (Option.filter_eq_some_iff.mp hshown).1

/-! ### The law of sweeps -/

/-- Behind any run from an empty store, take any run more with 64 writes or more, under a clock that does not go back.

Nothing is held behind it under a key that was not written again, if what was held there when it began was past its
expiry.  And what an archive holds behind both runs, from which nothing is ever swept, the keyspace holds too, unless it
is past its expiry by then. -/
theorem expired_swept {start t finish : Instant} {before after : List Moment} (hbefore : Forward start before)
    (ht : t.before (clockBehind start before) = false) (hafter : Forward t after)
    (hfinish : finish.before (clockBehind t after) = false) (hwrites : Keyspace.sweepInterval ≤ writeCount after) :
    (∀ key e, ((Keyspace.behind {} before).entries.get? key = some e ∧ e.isLive t = false) →
      (∀ m ∈ after, m.act.target? ≠ some key) →
      ((Keyspace.behind {} before).behind after).entries.get? key = none) ∧
    (∀ key e, (Archive.behind [] (before ++ after)).get? key = some e → e.isLive finish = true →
      ((Keyspace.behind {} before).behind after).entries.get? key = some e) := by
  have hempty : Alike ({} : Keyspace).entries [] start := ⟨Table.ascending_nil, Table.ascending_nil, fun _ => rfl⟩
  have hreached := (hempty.behind hbefore).mono ht
  constructor
  · rintro key e ⟨he, hpast⟩ hkey
    refine Keyspace.get?_behind_of_sweeps hreached.held hafter ?_ hkey (by omega)
    intro e' he'
    obtain rfl : e = e' := Option.some.inj (he.symm.trans he')
    exact hpast
  · intro key e he hlive
    have hend := (hreached.behind hafter).mono hfinish
    have hruns : Archive.behind [] (before ++ after) = Archive.behind (Archive.behind [] before) after :=
      List.foldl_append
    rw [hruns] at he
    exact hend.get?_of_isLive he hlive

/-- A text that never lives and one that lives for a minute, and a third one. -/
def sampleBefore : List Moment :=
  [⟨.ask (.put "old" "1" ⟨0⟩), .epoch, .epoch⟩, ⟨.ask (.put "kept" "2" (.ofSeconds 60)), .epoch, .epoch⟩,
    ⟨.ask (.put "other" "3" ⟨0⟩), .epoch, .epoch⟩]

/-- A look at what is there, and 64 writes of another key by turns. -/
def sampleAfter : List Moment :=
  ⟨.size, .epoch, .epoch⟩ :: (List.replicate 32
    [⟨.ask (.put "new" "4" (.ofSeconds 5)), .epoch, .epoch⟩,
      ⟨.ask (.replace "other" "new" "5" (.ofSeconds 5)), .epoch, .epoch⟩]).flatten

theorem expired_swept_sample :
    Forward .epoch sampleBefore ∧ Forward .epoch sampleAfter ∧ Keyspace.sweepInterval ≤ writeCount sampleAfter ∧
      (Keyspace.behind {} sampleBefore).raw? "old" = some "1" ∧
      ((Keyspace.behind {} sampleBefore).behind sampleAfter).raw? "old" = none ∧
      ((Keyspace.behind {} sampleBefore).behind sampleAfter).raw? "kept" = some "2" := by
  have hbefore : Forward .epoch sampleBefore := by decide
  have hafter : Forward .epoch sampleAfter := by decide +kernel
  have hwrites : Keyspace.sweepInterval ≤ writeCount sampleAfter := by decide +kernel
  have hstart : Instant.epoch.before (clockBehind .epoch sampleBefore) = false := by decide
  have hfinish : Instant.epoch.before (clockBehind .epoch sampleAfter) = false := by decide +kernel
  obtain ⟨hswept, hkept⟩ := expired_swept hbefore hstart hafter hfinish hwrites
  have hold := hswept "old" ⟨"1", Instant.epoch.add ⟨0⟩⟩ ⟨rfl, rfl⟩ (by decide +kernel)
  have hminute := hkept "kept" ⟨"2", Instant.epoch.add (.ofSeconds 60)⟩ (by rfl) rfl
  refine ⟨hbefore, hafter, hwrites, rfl, ?_, ?_⟩
  · rw [Keyspace.raw?, hold]
    rfl
  · rw [Keyspace.raw?, hminute]
    rfl

end SessionVault
