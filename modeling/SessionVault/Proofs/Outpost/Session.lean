import SessionVault.Proofs.Outpost.Basic

/-!
# The sessions of an outpost

While a call on a session waits for the store, clients go on changing the session.  The steps of calls and searches take
nothing of this back: they give a session another identifier at most.

* `mutated` — what the changes among some turns make of a session;
* `Outpost.lastId` — the identifier that the calls have given it last;
* `turn_session`, `run_session` — a session is made of these two;
* `record_of_unchanged` — the record of a session that nobody changes.
-/

namespace SessionVault

open Program

variable {σ : Type} {v : Vault} {answers : Answers σ} {o : Outpost σ} {n : Nat}

/-! ### Sessions and their changes -/

namespace Session

theorem withId_withId (s : Session) (id id' : String) : (s.withId id).withId id' = s.withId id' := rfl

theorem withId_id (s : Session) : s.withId s.id = s := rfl

/-- A change does not look at the identifier. -/
theorem changed_withId (s : Session) (id : String) (now : Instant) (c : Change) :
    (s.withId id).changed now c = (s.changed now c).withId id := by
  rw [changed_eq, changed_eq]
  cases c.mutation? with
  | none => rfl
  | some m => cases m <;> rfl

end Session

/-- What a turn makes of the session with a number, if it is a change of it. -/
def Turn.applied (n : Nat) (now : Instant) (s : Session) : Turn σ → Session
  | .change m c => if m = n then s.changed now c else s
  | _ => s

def Turn.later (now : Instant) : Turn σ → Instant
  | .tick d => now.add d
  | _ => now

/-- What the changes among some turns, made one after the other, make of the session with a number. -/
def mutated (n : Nat) : Session → Instant → List (Turn σ) → Session
  | s, _, [] => s
  | s, now, t :: turns => mutated n (t.applied n now s) (t.later now) turns

/-- The identifier that the first step of a program gives its session. -/
def Program.assigned? {α : Type} : Program α → Option String
  | .assign id _ => some id
  | _ => none

/-- The identifier that a turn gives the session with a number. -/
def Outpost.assigned? (o : Outpost σ) (n : Nat) : Turn σ → Option String
  | .step i =>
    match o.jobs[i]? with
    | some (.upkeep m _ rest) => if m = n then rest.assigned? else none
    | _ => none
  | _ => none

/-- The identifier that some turns have given the session with a number last. -/
def Outpost.lastId (v : Vault) (answers : Answers σ) (n : Nat) : Outpost σ → String → List (Turn σ) → String
  | _, id, [] => id
  | o, id, t :: turns => lastId v answers n (o.turn v answers t) ((o.assigned? n t).getD id) turns

theorem applied_withId (n : Nat) (now : Instant) (s : Session) (id : String) (t : Turn σ) :
    t.applied n now (s.withId id) = (t.applied n now s).withId id := by
  cases t with
  | change m c =>
    rw [Turn.applied, Turn.applied]
    split
    · exact s.changed_withId id now c
    · rfl
  | _ => rfl

/-- Turns without a change of a session make nothing else of it. -/
theorem mutated_of_unchanged {turns : List (Turn σ)} (h : ∀ c, Turn.change n c ∉ turns) (s : Session) (now : Instant) :
    mutated n s now turns = s := by
  induction turns generalizing now with
  | nil => rfl
  | cons t turns ih =>
    have happlied : t.applied n now s = s := by
      cases t with
      | change m c =>
        rw [Turn.applied, if_neg]
        rintro rfl
        exact h c List.mem_cons_self
      | _ => rfl
    rw [mutated, happlied]
    exact ih (fun c hc => h c (List.mem_cons_of_mem _ hc)) _

/-- A step changes nothing of the session but the identifier. -/
theorem session_step {τ : Type} (answers : Answers τ) (p : Program Unit) (w : World τ) :
    (p.step answers w).2.session = w.session.map fun s => s.withId (p.assigned?.getD s.id) := by
  have hsame : w.session = w.session.map fun s => s.withId s.id := by cases w.session <;> rfl
  cases p with
  | assign id next => rfl
  | snapshot next =>
    rw [Program.step]
    cases hs : w.session with
    | none => exact hs
    | some s => exact hs
  | _ => exact hsame

/-- A session behind a turn is what the turn makes of it, under the identifier that it gives it. -/
theorem turn_session {s : Session} (hs : o.sessions[n]? = some s) (t : Turn σ) :
    (o.turn v answers t).sessions[n]? = some ((t.applied n o.clock s).withId ((o.assigned? n t).getD s.id)) := by
  cases t with
  | change m c =>
    have hid : (s.changed o.clock c).withId s.id = s.changed o.clock c := by
      rw [← (Session.id_changed s o.clock c).1, Session.withId_id]
    rw [Outpost.turn, Turn.applied]
    by_cases hm : m = n
    · rw [if_pos hm, hm]
      refine (Roster.getElem?_modify_self n _ _).trans ?_
      rw [hs]
      exact congrArg some hid.symm
    · rw [if_neg hm]
      exact (Roster.getElem?_modify_of_ne (Ne.symm hm) _ _).trans hs
  | take i =>
    rw [Outpost.turn]
    split
    · refine Eq.trans ?_ hs
      exact (Array.getElem?_push ..).trans (if_neg (Nat.ne_of_lt (Array.getElem?_eq_some_iff.mp hs).1))
    · exact hs
  | call m c =>
    rw [Outpost.turn]
    split <;> exact hs
  | step i =>
    rw [Outpost.turn, Outpost.assigned?]
    cases hi : o.jobs[i]? with
    | none => exact hs
    | some job =>
      cases job with
      | search anew name id rest => exact hs
      | upkeep m c rest =>
        dsimp only
        -- A step leaves the session behind in what the step runs in; for another session nothing is done.
        by_cases hm : m = n
        · subst hm
          refine (Roster.getElem?_modify_self m _ _).trans ?_
          rw [session_step, if_pos rfl]
          show (o.sessions[m]?).map (fun s => ((o.sessions[m]?).map _).getD s) = _
          rw [hs]
          rfl
        · rw [if_neg hm]
          exact (Roster.getElem?_modify_of_ne (Ne.symm hm) _ _).trans hs
  | _ => exact hs

theorem turn_clock (o : Outpost σ) (v : Vault) (answers : Answers σ) (t : Turn σ) :
    (o.turn v answers t).clock = t.later o.clock := by
  cases t with
  | take i =>
    rw [Outpost.turn]
    split <;> rfl
  | call n c =>
    rw [Outpost.turn]
    split <;> rfl
  | step i =>
    rw [Outpost.turn]
    split <;> rfl
  | _ => rfl

/-- A session is what the changes have made of it, under the identifier that it was last given. -/
theorem run_session {s : Session} {id : String} (hs : o.sessions[n]? = some (s.withId id)) (turns : List (Turn σ)) :
    (o.run v answers turns).sessions[n]? =
      some ((mutated n s o.clock turns).withId (o.lastId v answers n id turns)) := by
  induction turns generalizing o s id with
  | nil => exact hs
  | cons t turns ih =>
    have hturn : (o.turn v answers t).sessions[n]? = _ := turn_session hs t
    rw [applied_withId, Session.withId_withId] at hturn
    rw [Outpost.run_cons, ih hturn, turn_clock]
    rfl

/-- A session at the end of a run is what the turns behind any moment have made of the session at that moment. -/
theorem session_between {turns before after : List (Turn σ)} {s : Session} (hturns : turns = before ++ after)
    (hs : (o.run v answers before).sessions[n]? = some s) :
    (o.run v answers turns).sessions[n]? = some ((mutated n s (o.run v answers before).clock after).withId
      ((o.run v answers before).lastId v answers n s.id after)) := by
  rw [hturns, Outpost.run_append]
  exact run_session hs after

/-- Without a change in between, two records of a session are the same but for the identifier. -/
theorem record_of_unchanged {turns before after : List (Turn σ)} {s t : Session} (hturns : turns = before ++ after)
    (hs : (o.run v answers before).sessions[n]? = some s) (ht : (o.run v answers turns).sessions[n]? = some t)
    (h : ∀ c, Turn.change n c ∉ after) : t.record = { s.record with id := t.id } := by
  have hmade := session_between hturns hs
  rw [mutated_of_unchanged h] at hmade
  rw [Option.some.inj (ht.symm.trans hmade)]
  rfl

end SessionVault
