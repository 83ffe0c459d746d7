import SessionVault.Proofs.Hall.Basic

/-!
# What a clean-up takes away

A search that reads a record past its expiry deletes what is under its key.  The record was read a while ago, and
others may have written the session since: then the clean-up destroys a session that lives.

* `Stage` — how far a search has got, and what it knows by then;
* `Destroys` — a search is about to delete an entry whose record is not past its expiry;
* `Overtaken` — what is left under the key since the search read it is such an entry;
* `destroys_iff_overtaken` — a clean-up destroys exactly the sessions that were written behind its back.
-/

namespace SessionVault

open Program

/-! ### Searches that clean up -/

/-- The events behind the last request of a search. -/
def Hall.since (h : Hall) (i : Nat) : List Event := h.journal.events.takeWhile fun e => e.actor ≠ .finder i

/-- The record in an entry is not past its expiry. -/
def Hall.Unexpired (v : Vault) (h : Hall) (name : String) (e : Entry) : Prop :=
  ∃ r, v.envelope.read Record.decoder e.text (Vault.associated name) = .ok r ∧ h.clock.before r.expiresAt = true

/-- A search is about to delete an entry whose record is not past its expiry. -/
def Hall.Destroys (v : Vault) (h : Hall) (i : Nat) : Prop :=
  ∃ name id key next, h.calls[i]? = some (.find name id (.ask (.delete key) next)) ∧
    ∃ e, h.journal.keyspace.shown key h.clock = some e ∧ h.Unexpired v name e

/-- A search is about to delete under a key, and what has been left there since its last request is an entry that
is not past its expiry, nor is the record in it. -/
def Hall.Overtaken (v : Vault) (h : Hall) (i : Nat) : Prop :=
  ∃ name id key next, h.calls[i]? = some (.find name id (.ask (.delete key) next)) ∧
    ∃ e, left (h.since i) key = some (some e) ∧ e.isLive h.clock = true ∧ h.Unexpired v name e

/-! ### What a search knows -/

section Stages

variable (v : Vault) (base : String → Option Entry) (h : Hall) (i : Nat) (name id : String)

/-- What was left under the key of a session before the last request of a search is an entry with a record in it. -/
def Read (r : Record) : Prop :=
  ∃ before e, h.journal.events = h.since i ++ before ∧
    (left before (v.key name id)).getD (base (v.key name id)) = some e ∧
    v.envelope.read Record.decoder e.text (Vault.associated name) = .ok r

/-- How far a search has got. -/
inductive Stage : Program Session → Prop where
  | asking : Stage (.ask (.get (v.key name id)) (v.receive name id))
  | checking {r : Record} (hr : Read v base h i name id r) : Stage (v.check name id r)
  | noting {r : Record} (hr : Read v base h i name id r) (past : h.clock.before r.expiresAt = false) :
    Stage (.note (Vault.cleanupNote name id) (v.cleanup name id))
  | cleaning {r : Record} (hr : Read v base h i name id r) (past : h.clock.before r.expiresAt = false) :
    Stage (v.cleanup name id)
  | warned (line : Note) (f : Failure) : Stage (.note line (.fail f))
  | found (s : Session) : Stage (.done s)
  | failed (f : Failure) : Stage (.fail f)

end Stages

variable {v : Vault} {base : String → Option Entry} {h h' : Hall} {i : Nat} {name id : String}

/-- The state of a hall after others than a search have moved. -/
structure Later (i : Nat) (h h' : Hall) : Prop where
  clock : h'.clock.before h.clock = false
  events : h'.journal.events = h.journal.events ∨
    ∃ e : Event, e.actor ≠ .finder i ∧ h'.journal.events = e :: h.journal.events

theorem Read.later {r : Record} (hr : Read v base h i name id r) (hl : Later i h h') : Read v base h' i name id r := by
  obtain ⟨before, e, hevents, hleft, hread⟩ := hr
  refine ⟨before, e, ?_, hleft, hread⟩
  rcases hl.events with heq | ⟨ev, hactor, heq⟩
  · rw [Hall.since, heq]
    exact hevents
  · rw [Hall.since, heq, List.takeWhile_cons_of_pos (by simpa using hactor), List.cons_append]
    exact congrArg _ hevents

theorem Stage.later {rest : Program Session} (hs : Stage v base h i name id rest) (hl : Later i h h') :
    Stage v base h' i name id rest := by
  cases hs with
  | asking => exact .asking
  | checking hr => exact .checking (hr.later hl)
  | noting hr past => exact .noting (hr.later hl) (Instant.not_before_trans past hl.clock)
  | cleaning hr past => exact .cleaning (hr.later hl) (Instant.not_before_trans past hl.clock)
  | warned line f => exact .warned line f
  | found s => exact .found s
  | failed f => exact .failed f

theorem stage_load (v : Vault) (base : String → Option Entry) (h : Hall) (i : Nat) (name id : String) :
    Stage v base h i name id (v.load name id) := by
  rw [Vault.load_eq]
  split
  · exact .failed _
  · exact .asking

/-- A search that has made its request knows what was shown. -/
theorem stage_receive (hs : Sound base h) {text : Option String}
    (ht : text = (h.journal.keyspace.shown (v.key name id) h.clock).map Entry.text)
    (hevents : h'.journal.events = ⟨.finder i, h.clock, .get (v.key name id)⟩ :: h.journal.events) :
    Stage v base h' i name id (v.receive name id (.ok text)) := by
  have hshown := hs.shown (v.key name id)
  cases he : h.journal.keyspace.shown (v.key name id) h.clock with
  | none =>
    rw [ht, he]
    exact .failed _
  | some e =>
    rw [ht, he]
    rw [he] at hshown
    have hleft := (Option.filter_eq_some_iff.mp hshown.symm).1
    show Stage v base h' i name id ((ofExcept (v.envelope.read Record.decoder e.text (Vault.associated name))).bind _)
    cases hread : v.envelope.read Record.decoder e.text (Vault.associated name) with
    | error f => exact .failed f
    | ok r =>
      rw [ofExcept_ok]
      split
      · exact .warned _ _
      · refine .checking ⟨h'.journal.events, e, ?_, ?_, hread⟩
        · rw [Hall.since, hevents, List.takeWhile_cons_of_neg (by simp), List.nil_append]
        · rw [hevents]
          exact hleft

/-- A step of a search leads to its next stage. -/
theorem Stage.step {rest : Program Session} (hs : Sound base h) (hstage : Stage v base h i name id rest) :
    Stage v base (h.stepFind i name id rest) i name id (rest.step (Journal.answers (.finder i)) (h.world none)).1 := by
  -- Without a request the search knows what it knew.
  have hsame : ∀ {h' : Hall}, h'.clock = h.clock → h'.journal.events = h.journal.events → Later i h h' :=
    fun hclock hevents => ⟨hclock ▸ Instant.not_before_self _, Or.inl hevents⟩
  cases hstage with
  | asking =>
    have hreply := Keyspace.answer_get h.journal.keyspace h.clock (v.key name id)
    show Stage v base _ i name id (v.receive name id (h.journal.keyspace.answer h.clock (.get (v.key name id))).1)
    rw [hreply]
    exact stage_receive hs rfl rfl
  | @checking r hr =>
    show Stage v base _ i name id (if h.clock.before r.expiresAt then _ else _)
    split
    · exact .found _
    · rename_i hpast
      exact .noting (hr.later (hsame rfl rfl)) (Bool.eq_false_iff.mpr hpast)
  | noting hr past => exact .cleaning (hr.later (hsame rfl rfl)) past
  | cleaning hr past => exact .failed .expired
  | warned line f => exact .failed f
  | found s => exact .found s
  | failed f => exact .failed f

/-! ### Moves -/

/-- A search after a move is a search before it that was left alone, a new one, or one that took a step. -/
theorem find_move {m : Move} {rest : Program Session}
    (hcall : (h.move v m).calls[i]? = some (.find name id rest)) :
    (h.calls[i]? = some (.find name id rest) ∧ m ≠ .step i) ∨ rest = v.load name id ∨
      ∃ rest', h.calls[i]? = some (.find name id rest') ∧ h.move v m = h.stepFind i name id rest' ∧
        rest = (rest'.step (Journal.answers (.finder i)) (h.world none)).1 := by
  cases m with
  | tick d => exact Or.inl ⟨hcall, by simp⟩
  | change n c => exact Or.inl ⟨hcall, by simp⟩
  | join s => exact Or.inl ⟨hcall, by simp⟩
  | ask r => exact Or.inl ⟨hcall, by simp⟩
  | find name' id' =>
    rcases getElem?_concat_iff.mp hcall with hold | ⟨-, hload⟩
    · exact Or.inl ⟨hold, by simp⟩
    · cases hload
      exact Or.inr (Or.inl rfl)
  | call n c =>
    rw [Hall.move] at hcall
    split at hcall
    · exact Or.inl ⟨hcall, by simp⟩
    · rcases getElem?_concat_iff.mp hcall with hold | ⟨-, hkeep⟩
      · exact Or.inl ⟨hold, by simp⟩
      · cases hkeep
  | step j =>
    rw [Hall.move] at hcall ⊢
    cases hj : h.calls[j]? with
    | none =>
      rw [hj] at hcall
      refine Or.inl ⟨hcall, ?_⟩
      intro hstep
      cases hstep
      rw [hj] at hcall
      cases hcall
    | some call =>
      rw [hj] at hcall
      cases call with
      | find name' id' rest' =>
        rcases (getElem?_set_iff hj).mp hcall with ⟨rfl, hfind⟩ | ⟨hne, hold⟩
        · cases hfind
          exact Or.inr (Or.inr ⟨rest', hj, rfl, rfl⟩)
        · exact Or.inl ⟨hold, fun hstep => hne (Move.step.inj hstep).symm⟩
      | keep n rest' =>
        rcases (getElem?_set_iff hj).mp hcall with ⟨rfl, hkeep⟩ | ⟨hne, hold⟩
        · cases hkeep
        · exact Or.inl ⟨hold, fun hstep => hne (Move.step.inj hstep).symm⟩

theorem later_move (hs : Sound base h) {m : Move} (hm : m ≠ .step i) : Later i h (h.move v m) := by
  rcases h.move_shared v m with ⟨d, rfl⟩ | ⟨hclock, hjournal | ⟨actor, r, hactor, hjournal⟩⟩
  · exact ⟨Instant.not_before_add hs.plain d, Or.inl rfl⟩
  · exact ⟨hclock ▸ Instant.not_before_self _, Or.inl (congrArg Journal.events hjournal)⟩
  · exact ⟨hclock ▸ Instant.not_before_self _, Or.inr ⟨_, fun hf => hm (hactor i hf), congrArg Journal.events hjournal⟩⟩

/-- Every search of a hall is at some stage. -/
def Staged (v : Vault) (base : String → Option Entry) (h : Hall) : Prop :=
  ∀ i name id rest, h.calls[i]? = some (.find name id rest) → Stage v base h i name id rest

theorem staged_move (hs : Sound base h) (hstaged : Staged v base h) (m : Move) : Staged v base (h.move v m) := by
  intro i name id rest hcall
  rcases find_move hcall with ⟨hold, hm⟩ | rfl | ⟨rest', hold, hmove, rfl⟩
  · exact (hstaged i name id rest hold).later (later_move hs hm)
  · exact stage_load v base _ i name id
  · rw [hmove]
    exact (hstaged i name id rest' hold).step hs

theorem staged_run (hs : Sound base h) (hstaged : Staged v base h) (moves : List Move) :
    Staged v base (h.run v moves) := by
  induction moves generalizing h with
  | nil => exact hstaged
  | cons m moves ih => exact ih (hs.move v m) (staged_move hs hstaged m)

/-! ### Clean-ups -/

/-- Where a search is about to delete, it has read a record that is past its expiry. -/
theorem Stage.read_of_delete {key : String} {next : Reply → Program Session}
    (hstage : Stage v base h i name id (.ask (.delete key) next)) :
    key = v.key name id ∧ ∃ r, Read v base h i name id r ∧ h.clock.before r.expiresAt = false := by
  cases hstage with
  | cleaning hr past => exact ⟨rfl, _, hr, past⟩

theorem destroys_iff (hs : Sound base h) (hstaged : Staged v base h) (i : Nat) : h.Destroys v i ↔ h.Overtaken v i := by
  constructor
  · rintro ⟨name, id, key, next, hcall, e, hshown, r, hread, hlive⟩
    obtain ⟨rfl, r', ⟨before, e', hevents, hleft, hread'⟩, hpast⟩ := (hstaged i name id _ hcall).read_of_delete
    refine ⟨name, id, _, next, hcall, e, ?_⟩
    rw [hs.shown, hevents, left_append] at hshown
    cases hsince : left (h.since i) (v.key name id) with
    | some entry =>
      rw [hsince] at hshown
      obtain ⟨hentry, hlive'⟩ := Option.filter_eq_some_iff.mp hshown
      have hentry' : entry = some e := hentry
      exact ⟨congrArg some hentry', hlive', r, hread, hlive⟩
    | none =>
      -- What the search has read is what is there still, and it is past its expiry.
      rw [hsince] at hshown
      have hsame := (Option.filter_eq_some_iff.mp hshown).1
      dsimp only at hsame
      rw [hleft] at hsame
      cases hsame
      rw [hread] at hread'
      cases hread'
      rw [hlive] at hpast
      cases hpast
  · rintro ⟨name, id, key, next, hcall, e, hsince, hlive, hunexpired⟩
    obtain ⟨rfl, r', ⟨before, e', hevents, hleft, hread'⟩, hpast⟩ := (hstaged i name id _ hcall).read_of_delete
    refine ⟨name, id, _, next, hcall, e, ?_, hunexpired⟩
    rw [hs.shown, hevents, left_append, hsince]
    exact Option.filter_eq_some_iff.mpr ⟨rfl, hlive⟩

open Roster in
/-- Whatever clients had a bench do before, and whatever happens then: a clean-up is about to destroy a session
that lives exactly if the session was written behind the request that the search read it with. -/
theorem destroys_iff_overtaken (v : Vault) (d : Duration) (entropy : Entropy) (acts : List Act) (moves : List Move)
    (i : Nat) :
    ((answers Bench.serve (Bench.start v d entropy) acts).2.hall.run v moves).Destroys v i ↔
      ((answers Bench.serve (Bench.start v d entropy) acts).2.hall.run v moves).Overtaken v i := by
  have hsound := sound_hall (answers_agree (agree_start v d entropy) acts).2
  have hstaged : Staged v (answers Bench.serve (Bench.start v d entropy) acts).2.base
      (answers Bench.serve (Bench.start v d entropy) acts).2.hall := by
    intro i name id rest hcall
    cases hcall
  exact destroys_iff (sound_run hsound v moves) (staged_run hsound hstaged moves) i

/-! ### A session that is destroyed -/

/-- A session of a minute is written, but the request takes almost a minute, so that the entry outlives the
record.  A search begins when the record is past its expiry. -/
def lateSearch : List Move :=
  [.call 0 .persist, .step 0, .step 0, .step 0, .tick (.ofSeconds 59), .step 0, .step 0, .tick (.ofSeconds 2),
    .find "sid" Vault.sampleId]

/-- The search reads the entry and finds that the record is past its expiry.  Before it cleans up, the session is
refreshed and written. -/
def lateCleanup : List Move :=
  [.step 1, .step 1, .change 0 (.refresh (.ofSeconds 60)), .call 0 .persist, .step 2, .step 2, .step 2, .step 2,
    .step 2]

/-- The hall behind the first request of the search. -/
def lateHall : Hall := (Bench.sample.hall.run Vault.sample lateSearch).move Vault.sample (.step 1)

def lateRecord : Record :=
  ⟨Vault.sampleId, "sid", [], Instant.epoch, Instant.epoch, Instant.epoch.add (.ofSeconds 60)⟩

def freshRecord : Record :=
  ⟨Vault.sampleId, "sid", [], Instant.epoch, Instant.epoch.add (.ofSeconds 61), Instant.epoch.add (.ofSeconds 121)⟩

/-- The nonces that the two are written under. -/
def lateNonce : Bytes := (Bench.sample.entropy.draw Algorithm.aes256Gcm.nonceSize).1

def freshNonce : Bytes :=
  ((Bench.sample.entropy.draw Algorithm.aes256Gcm.nonceSize).2.draw Algorithm.aes256Gcm.nonceSize).1

theorem stepFind_ask (h : Hall) (i : Nat) (name id : String) (r : Request) (next : Reply → Program Session) :
    h.stepFind i name id (.ask r next) =
      { h with
        journal := (Journal.answers (.finder i) h.journal h.clock r).2
        calls := h.calls.set i (.find name id (next (h.journal.keyspace.answer h.clock r).1)) } := rfl

/-- What the search reads leads it to the check of the record. -/
theorem receive_late :
    Vault.sample.receive "sid" Vault.sampleId (.ok (some (Vault.sample.wrap lateNonce lateRecord))) =
      Vault.sample.check "sid" Vault.sampleId lateRecord := by
  have hread : lateRecord.reread = .ok lateRecord :=
    (Record.reread_eq_self_iff lateRecord).mpr (Record.settled_of_nil rfl)
  exact Vault.sample.receive_wrap (Entropy.length_draw _ _) hread

theorem lateHall_eq :
    lateHall = { lateHall with
      calls := [.keep 0 (.done ()), .find "sid" Vault.sampleId (Vault.sample.check "sid" Vault.sampleId lateRecord)] } := by
  have hsearch : (Bench.sample.hall.run Vault.sample lateSearch).calls =
      [.keep 0 (.done ()), .find "sid" Vault.sampleId (.ask (.get (Vault.sample.key "sid" Vault.sampleId))
        (Vault.sample.receive "sid" Vault.sampleId))] := rfl
  have hcalls : lateHall.calls = [.keep 0 (.done ()), .find "sid" Vault.sampleId
      (Vault.sample.receive "sid" Vault.sampleId (.ok (some (Vault.sample.wrap lateNonce lateRecord))))] := by
    have hreply : ((Bench.sample.hall.run Vault.sample lateSearch).journal.keyspace.answer
        (Bench.sample.hall.run Vault.sample lateSearch).clock (.get (Vault.sample.key "sid" Vault.sampleId))).1 =
          .ok (some (Vault.sample.wrap lateNonce lateRecord)) := rfl
    rw [lateHall, Hall.move, hsearch]
    show (Hall.stepFind _ 1 "sid" Vault.sampleId (.ask (.get (Vault.sample.key "sid" Vault.sampleId)) _)).calls = _
    rw [stepFind_ask, hreply, hsearch]
    rfl
  rw [receive_late] at hcalls
  rw [← hcalls]

/-- The search is about to destroy the session that was written a moment ago. -/
theorem late_cleanup_destroys :
    (Bench.sample.hall.run Vault.sample (lateSearch ++ .step 1 :: lateCleanup)).Destroys Vault.sample 1 := by
  have hrun : Bench.sample.hall.run Vault.sample (lateSearch ++ .step 1 :: lateCleanup) =
      lateHall.run Vault.sample lateCleanup := by
    rw [lateHall, Hall.run, Hall.run, Hall.run, List.foldl_append, List.foldl_cons]
  rw [hrun, lateHall_eq]
  refine ⟨"sid", Vault.sampleId, Vault.sample.key "sid" Vault.sampleId, _, rfl,
    ⟨Vault.sample.wrap freshNonce freshRecord, freshRecord.expiresAt⟩, rfl, freshRecord, ?_, rfl⟩
  exact Vault.sample.read_wrap_of_nil (Entropy.length_draw _ _) rfl

end SessionVault
