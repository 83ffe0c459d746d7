import SessionVault.Proofs.Keyspace
import SessionVault.Proofs.Redis.Exchange
import SessionVault.Redis.Store

/-!
# Replacements on any server

A store replaces a key by a script or by a transaction.  Servers are other people's programs, so nothing is said here
about how one works, only what is expected of it:

* `Host` — a service, and what is seen of its states;
* `Host.Lawful` — it runs a script and a transaction in one step, a script up to the first command that fails and a
  transaction to its end.

From this alone follows how a script and a transaction come out:

* `Host.settles_rotation` — the script of replacements runs in one step, whether the host knew it or had to be told;
* `Host.settles_transaction` — the commands of a transaction do as well, and none of them stops those behind it.

What a write and a deletion do is asked for elsewhere, where the two are put together.
-/

namespace SessionVault.Redis

/-! ### Hosts -/

/-- A service, how it takes single commands on texts under keys, and what is seen of its states. -/
structure Host (σ τ : Type) where
  serve : Service σ
  single : Service τ
  /-- The texts under keys. -/
  view : σ → τ
  /-- No transaction is open. -/
  ready : σ → Prop
  /-- A transaction is open, and these are its commands so far. -/
  opened : σ → List Command → Prop
  /-- The script of replacements is known. -/
  knows : σ → Prop

namespace Host

variable {σ τ : Type}

/-- A command is answered without an error, and all texts stay as they are. -/
structure Quiet (h : Host σ τ) (c : Command) (s : σ) : Prop where
  answer : (h.serve c s).1.firstFault? = none
  view : h.view (h.serve c s).2 = h.view s

theorem Quiet.of_serve {h : Host σ τ} {c : Command} {s s' : σ} {a : Answer} (hserve : h.serve c s = (a, s'))
    (hanswer : a.firstFault? = none) (hview : h.view s' = h.view s) : h.Quiet c s where
  answer := by rw [hserve, hanswer]
  view := by rw [hserve, hview]

/-- What is expected of a host: it runs the script of replacements in one step, once it was told of it, and the commands
of a transaction in one step as well, when the transaction ends. -/
structure Lawful (h : Host σ τ) : Prop where
  unknown : ∀ {s}, h.ready s → ¬h.knows s → ∀ old new text millis,
    let out := h.serve (Command.runScript Script.rotation [old, new] [text, millis]) s
    Exchange.isUnknownScript out.1 = true ∧ h.view out.2 = h.view s ∧ h.ready out.2
  load : ∀ {s}, h.ready s → h.Quiet (Command.loadScript Script.rotation) s ∧
    h.ready (h.serve (Command.loadScript Script.rotation) s).2 ∧
    h.knows (h.serve (Command.loadScript Script.rotation) s).2
  run : ∀ {s}, h.ready s → h.knows s → ∀ old new text millis,
    let out := h.serve (Command.runScript Script.rotation [old, new] [text, millis]) s
    (out.1, h.view out.2) = h.single.runScript Script.rotation [old, new] [text, millis] (h.view s) ∧ h.ready out.2
  start : ∀ {s}, h.ready s → h.Quiet Command.start s ∧ h.opened (h.serve Command.start s).2 []
  keep : ∀ {s cs c}, h.opened s cs → c ≠ Command.commit → h.Quiet c s ∧ h.opened (h.serve c s).2 (cs ++ [c])
  commit : ∀ {s cs}, h.opened s cs →
    let out := h.serve Command.commit s
    out.1 = .list (h.single.all cs (h.view s)).1 ∧ h.view out.2 = (h.single.all cs (h.view s)).2 ∧ h.ready out.2

/-! ### Exchanges that end in one step -/

/-- An exchange comes to a result and to texts, and nobody finds anything between these texts and those of before. -/
structure Settles {α : Type} (h : Host σ τ) (x : Exchange α) (s : σ) (result : Except Fault α) (t : τ) : Prop where
  result : (x.run h.serve.peer s).1 = result
  view : h.view (x.run h.serve.peer s).2 = t
  ready : h.ready (x.run h.serve.peer s).2
  oneStep : InOneStep h.view (h.view s) (x.trail h.serve s) (x.run h.serve.peer s).2

variable {h : Host σ τ} {s : σ} {t : τ}

theorem Settles.of_run {α : Type} {x : Exchange α} {result : Except Fault α} (s' : σ)
    (hrun : x.run h.serve.peer s = (result, s')) (hview : h.view s' = t) (hready : h.ready s')
    (hstep : InOneStep h.view (h.view s) (x.trail h.serve s) s') : h.Settles x s result t := by
  have hlast := congrArg Prod.snd hrun
  exact ⟨congrArg Prod.fst hrun, hlast ▸ hview, hlast ▸ hready, hlast ▸ hstep⟩

/-- A value behind an exchange changes nothing for others. -/
theorem Settles.bind_done {α β : Type} {x : Exchange α} {result : Except Fault α} (hx : h.Settles x s result t)
    (b : β) : h.Settles (x.bind fun _ => .done b) s (result.map fun _ => b) t := by
  obtain ⟨hresult, hview, hready, hstep⟩ := hx
  have htrail : (x.bind fun _ => .done b).trail h.serve s = x.trail h.serve s := by
    rw [Exchange.trail_bind]
    cases x.run h.serve.peer s with
    | mk result s' => cases result <;> exact List.append_nil _
  refine Settles.of_run _ ?_ hview hready (htrail ▸ hstep)
  rw [Exchange.run_bind, ← hresult]
  cases x.run h.serve.peer s with
  | mk result s' => cases result <;> rfl

/-! ### Scripts -/

/-- The rotation runs in one step, whether the host knew it or not. -/
theorem settles_rotation (hl : h.Lawful) (hready : h.ready s) {old new text millis : String} {out : Answer × τ}
    (hout : h.single.runScript Script.rotation [old, new] [text, millis] (h.view s) = out)
    (hknown : Exchange.isUnknownScript out.1 = false) :
    h.Settles (Exchange.script Script.rotation [old, new] [text, millis] Answer.number?) s
      ((Answer.number? out.1).mapError Fault.client) out.2 := by
  have hrun : ∀ {s'}, h.ready s' → h.knows s' → h.view s' = h.view s →
      (h.serve (Command.runScript Script.rotation [old, new] [text, millis]) s').1 = out.1 ∧
        h.view (h.serve (Command.runScript Script.rotation [old, new] [text, millis]) s').2 = out.2 ∧
        h.ready (h.serve (Command.runScript Script.rotation [old, new] [text, millis]) s').2 := by
    intro s' hready' hknows' hview'
    obtain ⟨hanswer, hbehind⟩ := hl.run hready' hknows' old new text millis
    rw [hview', hout] at hanswer
    exact ⟨congrArg Prod.fst hanswer, congrArg Prod.snd hanswer, hbehind⟩
  by_cases hknows : h.knows s
  · obtain ⟨hanswer, hview, hbehind⟩ := hrun hready hknows rfl
    refine Settles.of_run (h.serve (Command.runScript Script.rotation [old, new] [text, millis]) s).2 ?_ hview
      hbehind ?_
    · rw [Exchange.run_script, hanswer, if_neg (Bool.eq_false_iff.mp hknown)]
    · rw [Exchange.trail_script, hanswer, if_neg (Bool.eq_false_iff.mp hknown)]
      exact InOneStep.singleton _ _ _
  · -- The host is told of the script in two commands that change no text, and runs it with the third.
    obtain ⟨hunknown, hview₁, hready₁⟩ := hl.unknown hready hknows old new text millis
    obtain ⟨⟨htold, hview₂⟩, hready₂, hknows₂⟩ := hl.load hready₁
    obtain ⟨hanswer, hview, hbehind⟩ := hrun hready₂ hknows₂ (hview₂.trans hview₁)
    have haccepted : (Answer.accepted (h.serve (Command.loadScript Script.rotation)
        (h.serve (Command.runScript Script.rotation [old, new] [text, millis]) s).2).1).mapError Fault.client =
        .ok () := by
      rw [Answer.accepted, htold]
      rfl
    refine Settles.of_run (h.serve (Command.runScript Script.rotation [old, new] [text, millis])
      (h.serve (Command.loadScript Script.rotation)
        (h.serve (Command.runScript Script.rotation [old, new] [text, millis]) s).2).2).2 ?_ hview hbehind ?_
    · rw [Exchange.run_script, if_pos hunknown, Exchange.run_bind, Exchange.run_ask, haccepted]
      dsimp only
      rw [Exchange.run_ask, hanswer]
    · rw [Exchange.trail_script, if_pos hunknown, Exchange.trail_bind, Exchange.trail_ask, Exchange.run_ask, haccepted]
      dsimp only
      rw [Exchange.trail_ask]
      exact ((InOneStep.singleton _ _ _).cons (hview₂.trans hview₁)).cons hview₁

/-! ### Transactions -/

/-- Commands that are sent together end with a list of answers, and have changed nothing before that. -/
structure Commits (h : Host σ τ) (cs : List Command) (s : σ) (items : List Answer) (t : τ) : Prop where
  answers : ∃ front, (h.serve.all cs s).1 = front ++ [.list items] ∧ Answer.firstFaultOf? front = none
  view : h.view (h.serve.all cs s).2 = t
  ready : h.ready (h.serve.all cs s).2
  oneStep : InOneStep h.view (h.view s) (h.serve.trail cs s) (h.serve.all cs s).2

theorem Commits.cons {c : Command} {cs : List Command} {items : List Answer} (hquiet : h.Quiet c s)
    (hbehind : h.Commits cs (h.serve c s).2 items t) : h.Commits (c :: cs) s items t := by
  obtain ⟨⟨front, hfront, hnone⟩, hview, hready, hstep⟩ := hbehind
  refine ⟨⟨(h.serve c s).1 :: front, congrArg _ hfront, ?_⟩, hview, hready, ?_⟩
  · rw [Answer.firstFaultOf?, hquiet.answer]
    exact hnone
  · rw [hquiet.view] at hstep
    exact hstep.cons hquiet.view

/-- Commands are kept while a transaction is open, and run when it ends. -/
theorem commits_of_opened (hl : h.Lawful) {cs queued : List Command} (hcs : ∀ c ∈ cs, c ≠ Command.commit)
    (hopened : h.opened s queued) :
    h.Commits (cs ++ [Command.commit]) s (h.single.all (queued ++ cs) (h.view s)).1
      (h.single.all (queued ++ cs) (h.view s)).2 := by
  induction cs generalizing s queued with
  | nil =>
    obtain ⟨hanswer, hview, hready⟩ := hl.commit hopened
    rw [List.append_nil]
    exact ⟨⟨[], congrArg (· :: []) hanswer, rfl⟩, hview, hready, InOneStep.singleton _ _ _⟩
  | cons c cs ih =>
    obtain ⟨hc, hrest⟩ := List.forall_mem_cons.mp hcs
    obtain ⟨hquiet, hkept⟩ := hl.keep hopened hc
    have hbehind := ih hrest hkept
    rw [hquiet.view, List.append_assoc] at hbehind
    exact Commits.cons hquiet hbehind

/-- A transaction runs its commands in one step, each for itself, and means what the list of their answers means. -/
theorem settles_transaction (hl : h.Lawful) (hready : h.ready s) {cs : List Command}
    (hcs : ∀ c ∈ cs, c ≠ Command.commit) :
    h.Settles (Exchange.transaction cs) s
      ((Answer.accepted (.list (h.single.all cs (h.view s)).1)).mapError Fault.client)
      (h.single.all cs (h.view s)).2 := by
  obtain ⟨hquiet, hopened⟩ := hl.start hready
  have hbehind := commits_of_opened hl hcs hopened
  rw [hquiet.view] at hbehind
  obtain ⟨⟨front, hanswers, hnone⟩, hview, hready', hstep⟩ := Commits.cons hquiet hbehind
  refine Settles.of_run _ (Exchange.run_transaction h.serve s hanswers hnone) hview hready' ?_
  rw [Exchange.trail_transaction]
  exact hstep

end Host

end SessionVault.Redis
