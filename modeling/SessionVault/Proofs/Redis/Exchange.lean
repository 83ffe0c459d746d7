import SessionVault.Redis.Service

/-!
# Exchanges with a service

An exchange with a service goes on with the answer to each command.  Others may ask the service behind any of these
commands, and find the state that the command has left.

* `run_bind`, `run_ask`, `run_script`, `run_transaction` — what an exchange comes to;
* `Exchange.trail` — the states that others find while it goes on, one behind each command; `trail_bind`, `trail_ask`,
  `trail_script` and `trail_transaction`, the same for its parts;
* `InOneStep` — all of these states but the last look like the one of before.
-/

namespace SessionVault.Redis

/-! ### What others find -/

/-- The states behind each of some commands. -/
def Service.trail {σ : Type} (serve : Service σ) : List Command → σ → List σ
  | [], _ => []
  | c :: cs, s => (serve c s).2 :: trail serve cs (serve c s).2

/-- States that all look the same but for the last one. -/
def InOneStep {σ τ : Type} (view : σ → τ) (before : τ) (found : List σ) (last : σ) : Prop :=
  ∃ front, found = front ++ [last] ∧ ∀ s ∈ front, view s = before

section InOneStep

variable {σ τ : Type} {view : σ → τ} {before : τ} {found : List σ} {s last : σ}

theorem InOneStep.singleton (view : σ → τ) (before : τ) (last : σ) : InOneStep view before [last] last :=
  ⟨[], rfl, fun s hs => by cases hs⟩

theorem InOneStep.cons (hs : view s = before) (h : InOneStep view before found last) :
    InOneStep view before (s :: found) last := by
  obtain ⟨front, rfl, hfront⟩ := h
  exact ⟨s :: front, rfl, List.forall_mem_cons.mpr ⟨hs, hfront⟩⟩

end InOneStep

namespace Exchange

variable {σ α β : Type}

/-- The states that others find behind each command of an exchange with a service. -/
def trail (serve : Service σ) : Exchange α → σ → List σ
  | done _, _ => []
  | fail _, _ => []
  | send cs next, s => serve.trail cs s ++ trail serve (next (serve.all cs s).1) (serve.all cs s).2

/-! ### Computations without commands -/

theorem run_ofExcept (peer : Peer σ) (x : Except ClientFault α) (s : σ) :
    (ofExcept x).run peer s = (x.mapError Fault.client, s) := by
  cases x <;> rfl

theorem trail_ofExcept (serve : Service σ) (x : Except ClientFault α) (s : σ) : (ofExcept x).trail serve s = [] := by
  cases x <;> rfl

/-! ### One exchange behind another -/

/-- What follows an exchange starts where it has ended, unless it failed. -/
theorem run_bind (peer : Peer σ) (x : Exchange α) (f : α → Exchange β) (s : σ) :
    (x.bind f).run peer s =
      match x.run peer s with
      | (.ok a, s) => (f a).run peer s
      | (.error e, s) => (.error e, s) := by
  induction x generalizing s with
  | done a => rfl
  | fail e => rfl
  | send cs next ih =>
    rw [bind, run, run]
    cases peer cs s with
    | mk arrival s' =>
      cases arrival with
      | answers as => exact ih as s'
      | silence => rfl
      | hangup => rfl

/-- What follows an exchange is found behind what is found of it, unless it failed. -/
theorem trail_bind (serve : Service σ) (x : Exchange α) (f : α → Exchange β) (s : σ) :
    (x.bind f).trail serve s = x.trail serve s ++
      match x.run serve.peer s with
      | (.ok a, s') => (f a).trail serve s'
      | (.error _, _) => [] := by
  induction x generalizing s with
  | done a => rfl
  | fail e => rfl
  | send cs next ih =>
    rw [bind, trail, ih, trail, List.append_assoc]
    rfl

/-! ### One command -/

variable (serve : Service σ) (meaning : Answer → Except ClientFault α) (s : σ)

/-- A command that is asked of a service means what its answer means. -/
theorem run_ask (c : Command) :
    (ask c meaning).run serve.peer s = ((meaning (serve c s).1).mapError Fault.client, (serve c s).2) :=
  run_ofExcept _ _ _

theorem trail_ask (c : Command) : (ask c meaning).trail serve s = [(serve c s).2] := by
  rw [ask, trail]
  show _ ++ (ofExcept (meaning (serve c s).1)).trail serve _ = _
  rw [trail_ofExcept]
  rfl

/-! ### Scripts -/

variable (script : Script) (keys arguments : List String)

/-- A script that the service knows is asked once, and one that it does not know is made known and asked again. -/
theorem run_script :
    (Exchange.script script keys arguments meaning).run serve.peer s =
      if isUnknownScript (serve (Command.runScript script keys arguments) s).1 then
        ((ask (Command.loadScript script) Answer.accepted).bind fun _ =>
          ask (Command.runScript script keys arguments) meaning).run serve.peer
            (serve (Command.runScript script keys arguments) s).2
      else
        ((meaning (serve (Command.runScript script keys arguments) s).1).mapError Fault.client,
          (serve (Command.runScript script keys arguments) s).2) := by
  show (if isUnknownScript (serve (Command.runScript script keys arguments) s).1 then _ else
    ofExcept (meaning (serve (Command.runScript script keys arguments) s).1) : Exchange α).run _ _ = _
  split
  · rfl
  · exact run_ofExcept _ _ _

/-- A script is found to have run at once, or behind two commands that make it known. -/
theorem trail_script :
    (Exchange.script script keys arguments meaning).trail serve s =
      (serve (Command.runScript script keys arguments) s).2 ::
        if isUnknownScript (serve (Command.runScript script keys arguments) s).1 then
          ((ask (Command.loadScript script) Answer.accepted).bind fun _ =>
            ask (Command.runScript script keys arguments) meaning).trail serve
              (serve (Command.runScript script keys arguments) s).2
        else [] := by
  rw [Exchange.script, trail]
  show _ :: (if isUnknownScript (serve (Command.runScript script keys arguments) s).1 then _ else
    ofExcept (meaning (serve (Command.runScript script keys arguments) s).1) : Exchange α).trail serve _ = _
  split
  · rfl
  · rw [trail_ofExcept]

/-! ### Transactions -/

/-- A transaction whose commands were all kept means what the list of their answers means. -/
theorem outcome_list {queued : List Answer} (h : Answer.firstFaultOf? queued = none) (items : List Answer) :
    outcome queued (.list items) = (Answer.list items).accepted := by
  rw [outcome.eq_def, h]

/-- A transaction that is run means what the list of its answers means. -/
theorem run_transaction {cs : List Command} {queued items : List Answer}
    (hall : (serve.all (Command.start :: cs ++ [Command.commit]) s).1 = queued ++ [.list items])
    (hqueued : Answer.firstFaultOf? queued = none) :
    (transaction cs).run serve.peer s =
      ((Answer.accepted (.list items)).mapError Fault.client,
        (serve.all (Command.start :: cs ++ [Command.commit]) s).2) := by
  rw [transaction, run, Service.peer]
  dsimp only
  rw [hall, List.getLast?_concat, List.dropLast_concat]
  dsimp only
  rw [run_ofExcept, outcome_list hqueued]

/-- Nothing is sent behind the commands of a transaction. -/
theorem trail_transaction (cs : List Command) :
    (transaction cs).trail serve s = serve.trail (Command.start :: cs ++ [Command.commit]) s := by
  rw [transaction, trail]
  refine (congrArg _ ?_).trans (List.append_nil _)
  cases (serve.all (Command.start :: cs ++ [Command.commit]) s).1.getLast? with
  | none => rfl
  | some commit => exact trail_ofExcept _ _ _

end Exchange

end SessionVault.Redis
