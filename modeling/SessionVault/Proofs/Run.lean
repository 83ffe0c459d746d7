import SessionVault.Bench

/-!
# Programs run to their end

`Program.run` runs a program in a `World`: a clock that stands still, a source of octets, a store that answers by any
function, and the session that the call is made on.

* `Program.step` — the first thing a program does, and `store_step`, what it asks of the store;
* `run_bind`, `run_attempt` — a program followed by another, and a program whose failure is a value;
* `Program.requests` — what a run asks of the store;
* `Bench.run_eq` — a bench whose gate is open and that has no failures to come runs a program the same way over its
  keyspace, and leaves all other sessions alone.
-/

namespace SessionVault

/-- What a program runs in. -/
structure World (σ : Type) where
  clock : Instant
  entropy : Entropy
  store : σ
  /-- The session that the call is made on. -/
  session : Option Session

/-- How a store answers: its reply, and the store after it. -/
abbrev Answers (σ : Type) := σ → Instant → Request → Reply × σ

def Keyspace.reply : Answers Keyspace := fun k now r => ((k.answer now r).1, (k.answer now r).2.1)

namespace Program

variable {σ α β : Type} {answers : Answers σ}

/-- Runs a program to its end.  A call on a session that there is none of fails. -/
def run (answers : Answers σ) : Program α → World σ → Except Failure α × World σ
  | .done a, w => (.ok a, w)
  | .fail f, w => (.error f, w)
  | .ask r next, w => run answers (next (answers w.store w.clock r).1) { w with store := (answers w.store w.clock r).2 }
  | .clock next, w => run answers (next w.clock) w
  | .draw n next, w => run answers (next (w.entropy.draw n).1) { w with entropy := (w.entropy.draw n).2 }
  | .note _ next, w => run answers next w
  | .snapshot next, w =>
    match w.session with
    | some s => run answers (next s.record) w
    | none => (.error .notFound, w)
  | .assign id next, w => run answers next { w with session := w.session.map (·.withId id) }

/-! ### Single steps -/

/-- The first thing that a program does, and what is left of the program. -/
def step (answers : Answers σ) : Program α → World σ → Program α × World σ
  | .done a, w => (.done a, w)
  | .fail f, w => (.fail f, w)
  | .ask r next, w => (next (answers w.store w.clock r).1, { w with store := (answers w.store w.clock r).2 })
  | .clock next, w => (next w.clock, w)
  | .draw n next, w => (next (w.entropy.draw n).1, { w with entropy := (w.entropy.draw n).2 })
  | .note _ next, w => (next, w)
  | .snapshot next, w =>
    match w.session with
    | some s => (next s.record, w)
    | none => (.fail .notFound, w)
  | .assign id next, w => (next, { w with session := w.session.map (·.withId id) })

/-- A step asks the store for one thing at most. -/
theorem store_step (answers : Answers σ) (p : Program α) (w : World σ) :
    (p.step answers w).2.store = w.store ∨
      ∃ r next, p = .ask r next ∧ (p.step answers w).2.store = (answers w.store w.clock r).2 := by
  cases p with
  | done a => exact Or.inl rfl
  | fail f => exact Or.inl rfl
  | ask r next => exact Or.inr ⟨r, next, rfl, rfl⟩
  | clock next => exact Or.inl rfl
  | draw n next => exact Or.inl rfl
  | note line next => exact Or.inl rfl
  | snapshot next =>
    refine Or.inl ?_
    rw [step]
    cases w.session <;> rfl
  | assign id next => exact Or.inl rfl

/-! ### Programs made of others -/

/-- What follows a program runs where the program has ended, unless it failed. -/
def followed (answers : Answers σ) (f : α → Program β) (out : Except Failure α × World σ) :
    Except Failure β × World σ :=
  match out.1 with
  | .ok a => run answers (f a) out.2
  | .error e => (.error e, out.2)

theorem run_bind (p : Program α) (f : α → Program β) (w : World σ) :
    (p.bind f).run answers w = followed answers f (p.run answers w) := by
  induction p generalizing w with
  | done a => rfl
  | fail e => rfl
  | ask r next ih => exact ih _ _
  | clock next ih => exact ih _ _
  | draw n next ih => exact ih _ _
  | note line next ih => exact ih w
  | snapshot next ih =>
    rw [bind, run, run]
    cases w.session with
    | none => rfl
    | some s => exact ih _ w
  | assign id next ih => exact ih _

@[simp] theorem ofExcept_ok (a : α) (f : α → Program β) : (ofExcept (.ok a)).bind f = f a := rfl

@[simp] theorem ofExcept_error (e : Failure) (f : α → Program β) : (ofExcept (.error e)).bind f = .fail e := rfl

/-- A program that is made on no session, and that makes none but certain requests. -/
def Free (allowed : Request → Prop) : Program α → Prop
  | .done _ | .fail _ => True
  | .ask r next => allowed r ∧ ∀ reply, Free allowed (next reply)
  | .clock next => ∀ t, Free allowed (next t)
  | .draw _ next => ∀ bs, Free allowed (next bs)
  | .note _ next => Free allowed next
  | .snapshot _ | .assign _ _ => False

variable {allowed : Request → Prop}

theorem Free.step {p : Program α} (h : p.Free allowed) (w : World σ) : (p.step answers w).1.Free allowed := by
  cases p with
  | done a => trivial
  | fail f => trivial
  | ask r next => exact h.2 _
  | clock next => exact h _
  | draw n next => exact h _
  | note line next => exact h
  | snapshot next => exact h.elim
  | assign id next => exact h.elim

theorem Free.imp {allowed' : Request → Prop} (himp : ∀ r, allowed r → allowed' r) {p : Program α} (h : p.Free allowed) :
    p.Free allowed' := by
  induction p with
  | done a => trivial
  | fail f => trivial
  | ask r next ih => exact ⟨himp r h.1, fun reply => ih reply (h.2 reply)⟩
  | clock next ih => exact fun t => ih t (h t)
  | draw n next ih => exact fun bs => ih bs (h bs)
  | note line next ih => exact ih h
  | snapshot next ih => exact h.elim
  | assign id next ih => exact h.elim

theorem Free.bind {p : Program α} (h : p.Free allowed) {f : α → Program β} (hf : ∀ a, (f a).Free allowed) :
    (p.bind f).Free allowed := by
  induction p with
  | done a => exact hf a
  | fail e => trivial
  | ask r next ih => exact ⟨h.1, fun reply => ih reply (h.2 reply)⟩
  | clock next ih => exact fun t => ih t (h t)
  | draw n next ih => exact fun bs => ih bs (h bs)
  | note line next ih => exact ih h
  | snapshot next ih => exact h.elim
  | assign id next ih => exact h.elim

theorem Free.attempt {p : Program α} (h : p.Free allowed) : p.attempt.Free allowed := by
  induction p with
  | done a => trivial
  | fail e => trivial
  | ask r next ih => exact ⟨h.1, fun reply => ih reply (h.2 reply)⟩
  | clock next ih => exact fun t => ih t (h t)
  | draw n next ih => exact fun bs => ih bs (h bs)
  | note line next ih => exact ih h
  | snapshot next ih => exact h.elim
  | assign id next ih => exact h.elim

theorem run_attempt (p : Program α) (h : p.Free allowed) (w : World σ) :
    p.attempt.run answers w = (.ok (p.run answers w).1, (p.run answers w).2) := by
  induction p generalizing w with
  | done a => rfl
  | fail e => rfl
  | ask r next ih => exact ih _ (h.2 _) _
  | clock next ih => exact ih _ (h _) _
  | draw n next ih => exact ih _ (h _) _
  | note line next ih => exact ih h w
  | snapshot next ih => exact h.elim
  | assign id next ih => exact h.elim

/-! ### Requests of a run -/

/-- The requests that a program makes while it runs to its end, the first one first. -/
def requests (answers : Answers σ) : Program α → World σ → List Request
  | .done _, _ | .fail _, _ => []
  | .ask r next, w =>
    r :: requests answers (next (answers w.store w.clock r).1) { w with store := (answers w.store w.clock r).2 }
  | .clock next, w => requests answers (next w.clock) w
  | .draw n next, w => requests answers (next (w.entropy.draw n).1) { w with entropy := (w.entropy.draw n).2 }
  | .note _ next, w => requests answers next w
  | .snapshot next, w =>
    match w.session with
    | some s => requests answers (next s.record) w
    | none => []
  | .assign id next, w => requests answers next { w with session := w.session.map (·.withId id) }

theorem Free.allowed_of_mem {p : Program α} (h : p.Free allowed) {w : World σ} {r : Request}
    (hr : r ∈ p.requests answers w) : allowed r := by
  induction p generalizing w with
  | done a => cases hr
  | fail e => cases hr
  | ask r' next ih =>
    rcases List.mem_cons.mp hr with rfl | hr
    · exact h.1
    · exact ih _ (h.2 _) hr
  | clock next ih => exact ih _ (h _) hr
  | draw n next ih => exact ih _ (h _) hr
  | note line next ih => exact ih h hr
  | snapshot next ih => exact h.elim
  | assign id next ih => exact h.elim

end Program

/-! ### Benches -/

namespace Bench

variable {α : Type}

def world (b : Bench) (n : Nat) : World Keyspace := ⟨b.clock, b.entropy, b.keyspace, b.sessions[n]?⟩

/-- The gate of a bench is open, no failures are to come and no call waits. -/
structure Idle (b : Bench) : Prop where
  gate : b.gate = .opened
  faults : b.faults = []
  tasks : b.tasks = []

/-- A bench after a call on the session with a number that ended in a world. -/
structure Ran (b : Bench) (n : Nat) (w : World Keyspace) (b' : Bench) : Prop where
  idle : b'.Idle
  vault : b'.vault = b.vault
  clock : b'.clock = b.clock
  entropy : b'.entropy = w.entropy
  keyspace : b'.keyspace = w.store
  session : b'.sessions[n]? = w.session
  others : ∀ m, m ≠ n → b'.sessions[m]? = b.sessions[m]?

/-- A bench after a call, seen from a bench that agrees with the first one on all but its world. -/
theorem Ran.of_agree {a b b' : Bench} {n : Nat} {w : World Keyspace} (h : a.Ran n w b') (hv : a.vault = b.vault)
    (hc : a.clock = b.clock) (hs : ∀ m, m ≠ n → a.sessions[m]? = b.sessions[m]?) : b.Ran n w b' :=
  ⟨h.idle, h.vault.trans hv, h.clock.trans hc, h.entropy, h.keyspace, h.session,
    fun m hm => (h.others m hm).trans (hs m hm)⟩

/-- An idle bench runs a program to its end over its keyspace, and leaves the other sessions alone. -/
theorem run_eq (p : Program α) (n : Nat) (b : Bench) (h : b.Idle) :
    ∃ b', run n p b = (.ended (p.run Keyspace.reply (b.world n)).1, b') ∧
      b.Ran n (p.run Keyspace.reply (b.world n)).2 b' := by
  induction p generalizing b with
  | done a => exact ⟨b, rfl, h, rfl, rfl, rfl, rfl, rfl, fun _ _ => rfl⟩
  | fail f => exact ⟨b, rfl, h, rfl, rfl, rfl, rfl, rfl, fun _ _ => rfl⟩
  | ask r next ih =>
    -- The request passes the open gate, and no failure takes the place of its answer.
    obtain ⟨vault, clock, entropy, keyspace, gate, faults, sessions, slots, saved, tasks, calls, notes⟩ := b
    obtain ⟨hgate, hfaults, htasks⟩ := h
    cases hgate
    cases hfaults
    obtain ⟨b', hrun, hran⟩ := ih (keyspace.answer clock r).1
      (Bench.take ⟨vault, clock, entropy, (keyspace.answer clock r).2.1, .opened, [], sessions, slots, saved, tasks,
        r :: calls, notes⟩ (keyspace.answer clock r).2.2) ⟨rfl, rfl, htasks⟩
    refine ⟨b', ?_, hran.of_agree rfl rfl fun _ _ => rfl⟩
    simp only [run, pass?, answer, List.drop_nil]
    exact hrun
  | clock next ih => exact ih _ b h
  | draw k next ih =>
    obtain ⟨b', hrun, hran⟩ := ih (b.entropy.draw k).1 { b with entropy := (b.entropy.draw k).2 }
      ⟨h.gate, h.faults, h.tasks⟩
    exact ⟨b', hrun, hran.of_agree rfl rfl fun _ _ => rfl⟩
  | note line next ih =>
    obtain ⟨b', hrun, hran⟩ := ih (b.take [line]) ⟨h.gate, h.faults, h.tasks⟩
    exact ⟨b', hrun, hran.of_agree rfl rfl fun _ _ => rfl⟩
  | snapshot next ih =>
    cases hs : b.sessions[n]? with
    | none =>
      have hworld : (b.world n).session = none := hs
      simp only [run, Program.run, hs, hworld]
      exact ⟨b, rfl, h, rfl, rfl, rfl, rfl, rfl, fun _ _ => rfl⟩
    | some s =>
      have hworld : (b.world n).session = some s := hs
      simp only [run, Program.run, hs, hworld]
      exact ih s.record b h
  | assign id next ih =>
    have hmodify : ∀ m, (b.modify n (·.withId id)).sessions[m]? =
        if n = m then (b.sessions[m]?).map (·.withId id) else b.sessions[m]? := fun m => by
      rw [modify, Array.getElem?_modify]
    obtain ⟨b', hrun, hran⟩ := ih (b.modify n (·.withId id)) ⟨h.gate, h.faults, h.tasks⟩
    have hworld : (b.modify n (·.withId id)).world n =
        { b.world n with session := (b.world n).session.map (·.withId id) } := by
      show World.mk b.clock b.entropy b.keyspace ((b.modify n (·.withId id)).sessions[n]?) = _
      rw [hmodify n, if_pos rfl]
      rfl
    rw [hworld] at hrun hran
    refine ⟨b', hrun, hran.of_agree rfl rfl ?_⟩
    intro m hm
    rw [hmodify m, if_neg (Ne.symm hm)]

/-- A call that need not wait is over at once. -/
theorem performOn_eq (p : Program α) (n : Nat) (b : Bench) (h : b.Idle) :
    ∃ b', b.performOn n p = (.ended (p.run Keyspace.reply (b.world n)).1, b') ∧
      b.Ran n (p.run Keyspace.reply (b.world n)).2 b' := by
  obtain ⟨b', hrun, hran⟩ := run_eq p n b h
  refine ⟨b', ?_, hran⟩
  have hidle : b.isBusy n = false := by
    rw [isBusy, h.tasks]
    rfl
  rw [performOn, hidle, if_neg Bool.false_ne_true, perform, hrun]

theorem perform_eq (p : Program α) (n : Nat) (b : Bench) (h : b.Idle) :
    ∃ b', b.perform n p = (.ended (p.run Keyspace.reply (b.world n)).1, b') ∧
      b.Ran n (p.run Keyspace.reply (b.world n)).2 b' := by
  obtain ⟨b', hrun, hran⟩ := run_eq p n b h
  refine ⟨b', ?_, hran⟩
  rw [perform, hrun]

end Bench

end SessionVault
