import SessionVault.Proofs.Outpost.Session

/-!
# No update of a session is lost

A call on a session reads its record, asks the store for one thing, and gives the session another identifier if it has
moved it.  Meanwhile clients change the session, the owner of the store does what he likes, and other calls on the
session wait.

* `Vault.Sends` — the request of a call that has read a record;
* `Holding`, `Closing` — what is left of a call before its request, and behind one that has succeeded;
* `Phase` — how far a call has got, and what the session has become by then;
* `Orderly` — the invariant: calls on one session take turns, and each sends what it has read;
* `no_update_lost` — what this says of every run;
* `shown_of_kept` — what it means where the store is a keyspace.
-/

namespace SessionVault

open Program

variable {σ : Type} {v : Vault} {answers : Answers σ} {o : Outpost σ} {i n : Nat} {c : Lifecycle}

/-! ### What a call sends -/

/-- The request of a call that has read a record.  It leaves the record under an identifier, or takes it away. -/
inductive Vault.Sends (v : Vault) (r : Record) : Lifecycle → String → Request → Prop where
  | persist {nonce : Bytes} (h : nonce.length = v.envelope.cipher.algorithm.nonceSize) (ttl : Duration) :
    Sends v r .persist r.id (.put (v.key r.name r.id) (v.wrap nonce r) ttl)
  | rotate {nonce : Bytes} (h : nonce.length = v.envelope.cipher.algorithm.nonceSize) (id : String) (ttl : Duration) :
    Sends v r .rotate id (.replace (v.key r.name r.id) (v.key r.name id) (v.wrap nonce { r with id := id }) ttl)
  | destroy : Sends v r .destroy r.id (.delete (v.key r.name r.id))

/-- What a persist or a rotation sends leaves the record, sealed, under the key of its name and the identifier. -/
theorem Vault.Sends.leaves {r : Record} {id : String} {q : Request} (h : v.Sends r c id q) (hc : c ≠ .destroy) :
    ∃ (nonce : Bytes) (ttl : Duration), nonce.length = v.envelope.cipher.algorithm.nonceSize ∧
      ∀ now, q.leaves now (v.key r.name id) = some (some ⟨v.wrap nonce { r with id := id }, now.add ttl⟩) := by
  cases h with
  | @persist nonce hn ttl => exact ⟨nonce, ttl, hn, fun now => if_pos rfl⟩
  | @rotate nonce hn id ttl => exact ⟨nonce, ttl, hn, fun now => if_pos rfl⟩
  | destroy => exact absurd rfl hc

/-- What is left of a call whose request has succeeded.  The session has one identifier still, and has another at the
end. -/
def Closing (c : Lifecycle) : String → String → Program Unit → Prop
  | old, id, .done _ => old = id
  | old, id, .note _ next => Closing c old id next
  | _, id, .assign id' next => c = .rotate ∧ id' = id ∧ Closing c id id next
  | _, _, _ => False

/-- What is left of a call that has read a record and made no request yet. -/
def Holding (v : Vault) (c : Lifecycle) (r : Record) : Program Unit → Prop
  | .fail _ => True
  | .ask q next => ∃ id, v.Sends r c id q ∧ (∀ f, next (.error f) = .fail f) ∧
      ∀ text, Closing c r.id id (next (.ok text))
  | .clock next => ∀ t, Holding v c r (next t)
  | .draw k next => ∀ bs, bs.length = k → Holding v c r (next bs)
  | _ => False

/-- Every call reads its session first. -/
theorem lifecycle_eq (v : Vault) (c : Lifecycle) :
    ∃ next, v.lifecycle c = .snapshot next ∧ ∀ r, Holding v c r (next r) := by
  cases c with
  | persist =>
    refine ⟨_, v.persist_eq, ?_⟩
    intro r now
    show Holding v .persist r ((ofExcept (Vault.writableTtl r.expiresAt now)).bind _)
    cases Vault.writableTtl r.expiresAt now with
    | error f => trivial
    | ok ttl => exact fun nonce hn => ⟨r.id, .persist hn ttl, fun f => rfl, fun text => rfl⟩
  | rotate =>
    refine ⟨_, v.rotate_eq, ?_⟩
    intro r now
    show Holding v .rotate r ((ofExcept (Vault.writableTtl r.expiresAt now)).bind _)
    cases Vault.writableTtl r.expiresAt now with
    | error f => trivial
    | ok ttl => exact fun octets _ nonce hn => ⟨_, .rotate hn _ ttl, fun f => rfl, fun text => ⟨rfl, rfl, rfl⟩⟩
  | destroy => exact ⟨_, v.destroy_eq, fun r => ⟨r.id, .destroy, fun f => rfl, fun text => rfl⟩⟩

/-- No call begins with anything else. -/
theorem lifecycle_ne {v : Vault} {c : Lifecycle} {rest : Program Unit} (h : ∀ next, rest ≠ .snapshot next) :
    rest ≠ v.lifecycle c := by
  obtain ⟨next, hnext, -⟩ := lifecycle_eq v c
  rw [hnext]
  exact h next

/-! ### Calls under way -/

/-- No call on the session with a number has begun behind the job with a number. -/
def Outpost.IsLast (o : Outpost σ) (i n : Nat) : Prop :=
  ∀ j c rest, o.jobs[j]? = some (.upkeep n c rest) → j ≤ i

/-- The session with a number is there, and has an identifier as long as no other call on it begins. -/
def Outpost.IsAt (o : Outpost σ) (i n : Nat) (id : String) : Prop :=
  ∃ s, o.sessions[n]? = some s ∧ (o.IsLast i n → s.id = id)

section Runs

variable (v : Vault) (answers : Answers σ) (o : Outpost σ)

/-- Behind some turns, a call is about to read its session. -/
def Snapshot (before : List (Turn σ)) (i n : Nat) (c : Lifecycle) (s : Session) : Prop :=
  (∃ next, (o.run v answers before).jobs[i]? = some (.upkeep n c (.snapshot next))) ∧
    (o.run v answers before).sessions[n]? = some s

/-- A call has read its session at one of the turns. -/
def Taken (turns : List (Turn σ)) (i n : Nat) (c : Lifecycle) (s : Session) : Prop :=
  ∃ before after, turns = before ++ .step i :: after ∧ Snapshot v answers o before i n c s

/-- How far a call has got. -/
inductive Phase (turns : List (Turn σ)) (i n : Nat) (c : Lifecycle) : Program Unit → Prop where
  | fresh {rest : Program Unit} (h : rest = v.lifecycle c) : Phase turns i n c rest
  | failed (f : Failure) : Phase turns i n c (.fail f)
  | holding {s : Session} {rest : Program Unit} (hs : Taken v answers o turns i n c s)
    (hid : (o.run v answers turns).IsAt i n s.id) (h : Holding v c s.record rest) : Phase turns i n c rest
  | closing {s : Session} {old id : String} {e : Exchange} {rest : Program Unit} (hs : Taken v answers o turns i n c s)
    (hid : (o.run v answers turns).IsAt i n old) (he : e ∈ (o.run v answers turns).exchanges)
    (hcaller : e.caller = .keeper i n) (hreply : e.reply.isOk = true) (hsends : v.Sends s.record c id e.request)
    (h : Closing c old id rest) : Phase turns i n c rest

/-- Calls on one session take turns, and each sends what it has read. -/
structure Orderly (turns : List (Turn σ)) : Prop where
  phase : ∀ i n c rest, (o.run v answers turns).jobs[i]? = some (.upkeep n c rest) → Phase v answers o turns i n c rest
  /-- A call that is not the last on its session is over. -/
  serial : ∀ (i j n : Nat) (c c' : Lifecycle) (rest rest' : Program Unit), i < j →
    (o.run v answers turns).jobs[i]? = some (.upkeep n c rest) →
    (o.run v answers turns).jobs[j]? = some (.upkeep n c' rest') → rest.isOver = true
  sends : ∀ e ∈ (o.run v answers turns).exchanges, ∀ i n, e.caller = .keeper i n →
    ∃ c s id, Taken v answers o turns i n c s ∧ v.Sends s.record c id e.request

end Runs

theorem Taken.later {turns : List (Turn σ)} {s : Session} (h : Taken v answers o turns i n c s) (t : Turn σ) :
    Taken v answers o (turns ++ [t]) i n c s := by
  obtain ⟨before, after, rfl, hsnapshot⟩ := h
  exact ⟨before, after ++ [t], by rw [List.append_assoc, List.cons_append], hsnapshot⟩

theorem run_concat (o : Outpost σ) (v : Vault) (answers : Answers σ) (turns : List (Turn σ)) (t : Turn σ) :
    o.run v answers (turns ++ [t]) = (o.run v answers turns).turn v answers t := by
  rw [Outpost.run_append]
  rfl

/-! ### Calls behind a turn -/

/-- A call behind a turn was left alone, or has taken a step, or has just begun where no other was under way. -/
theorem upkeep_turn {t : Turn σ} {rest : Program Unit}
    (hjob : (o.turn v answers t).jobs[i]? = some (.upkeep n c rest)) :
    (o.jobs[i]? = some (.upkeep n c rest) ∧ t ≠ .step i) ∨
      (∃ rest', t = .step i ∧ o.jobs[i]? = some (.upkeep n c rest') ∧
        o.turn v answers t = o.stepUpkeep answers i n c rest' ∧
        rest = (rest'.step (Transcript.answers answers (.keeper i n)) (o.world o.sessions[n]?)).1) ∨
      i = o.jobs.length ∧ o.isBusy n = false ∧ rest = v.lifecycle c := by
  rcases o.turn_cases v answers t with ⟨j, anew, name, id, rest', rfl, hj, hturn⟩ | ⟨j, m, c', rest', rfl, hj, hturn⟩ |
      ⟨hstep, -, hjobs⟩
  · rw [hturn] at hjob
    rcases (getElem?_set_iff hj).mp hjob with ⟨-, hnew⟩ | ⟨hne, hold⟩
    · cases hnew
    · exact Or.inl ⟨hold, fun heq => hne (Turn.step.inj heq).symm⟩
  · have hset := hjob
    rw [hturn] at hset
    rcases (getElem?_set_iff hj).mp hset with ⟨rfl, hnew⟩ | ⟨hne, hold⟩
    · cases hnew
      exact Or.inr (Or.inl ⟨rest', rfl, hj, hturn, rfl⟩)
    · exact Or.inl ⟨hold, fun heq => hne (Turn.step.inj heq).symm⟩
  · have hleft : o.jobs[i]? = some (.upkeep n c rest) → t ≠ .step i := by
      rintro hold rfl
      rw [hstep i rfl] at hold
      cases hold
    rw [hjobs] at hjob
    cases hbegun : o.begun v t with
    | none =>
      rw [hbegun, Option.toList_none, List.append_nil] at hjob
      exact Or.inl ⟨hjob, hleft hjob⟩
    | some job =>
      rw [hbegun, Option.toList_some] at hjob
      rcases getElem?_concat_iff.mp hjob with hold | ⟨hlast, rfl⟩
      · exact Or.inl ⟨hold, hleft hold⟩
      · cases t with
        | call m c' =>
          rw [Outpost.begun] at hbegun
          cases hbusy : o.isBusy m with
          | true =>
            rw [hbusy] at hbegun
            cases hbegun
          | false =>
            rw [hbusy] at hbegun
            cases hbegun
            exact Or.inr (Or.inr ⟨hlast, hbusy, rfl⟩)
        | _ => cases hbegun

/-- A call stays a call, whatever happens. -/
theorem upkeep_stays {rest : Program Unit} (hjob : o.jobs[i]? = some (.upkeep n c rest)) (t : Turn σ) :
    ∃ rest', (o.turn v answers t).jobs[i]? = some (.upkeep n c rest') := by
  rcases o.turn_cases v answers t with ⟨j, anew, name, id, rest', -, hj, hturn⟩ | ⟨j, m, c', rest', -, hj, hturn⟩ |
      ⟨-, -, hjobs⟩
  · rw [hturn]
    refine ⟨rest, (getElem?_set_iff hj).mpr (Or.inr ⟨?_, hjob⟩)⟩
    rintro rfl
    rw [hj] at hjob
    cases hjob
  · rw [hturn]
    by_cases hi : i = j
    · subst hi
      rw [hj] at hjob
      cases hjob
      exact ⟨_, (getElem?_set_iff hj).mpr (Or.inl ⟨rfl, rfl⟩)⟩
    · exact ⟨rest, (getElem?_set_iff hj).mpr (Or.inr ⟨hi, hjob⟩)⟩
  · rw [hjobs]
    exact ⟨rest, (List.getElem?_append_left (List.getElem?_eq_some_iff.mp hjob).1).trans hjob⟩

theorem Outpost.IsLast.before {t : Turn σ} (h : (o.turn v answers t).IsLast i n) : o.IsLast i n := by
  intro j c rest hjob
  obtain ⟨rest', hjob'⟩ := upkeep_stays (v := v) hjob t
  exact h j c rest' hjob'

/-- The session keeps its identifier at a turn that gives it none. -/
theorem Outpost.IsAt.turn {id : String} (h : o.IsAt i n id) {t : Turn σ}
    (hnone : o.IsLast i n → o.assigned? n t = none) : (o.turn v answers t).IsAt i n id := by
  obtain ⟨s, hs, hid⟩ := h
  refine ⟨_, turn_session hs t, ?_⟩
  intro hlast
  rw [Session.id_withId, hnone hlast.before]
  exact hid hlast.before

/-- A step of another call gives the session no identifier: that call would not be over. -/
theorem Orderly.not_assigned {turns : List (Turn σ)} (h : Orderly v answers o turns) {rest : Program Unit}
    (hjob : (o.run v answers turns).jobs[i]? = some (.upkeep n c rest)) {t : Turn σ} (ht : t ≠ .step i)
    (hlast : (o.run v answers turns).IsLast i n) : (o.run v answers turns).assigned? n t = none := by
  cases t with
  | step j =>
    rw [Outpost.assigned?]
    cases hj : (o.run v answers turns).jobs[j]? with
    | none => rfl
    | some job =>
      cases job with
      | search anew name id rest' => rfl
      | upkeep m c' rest' =>
        dsimp only
        split
        · rename_i hm
          subst hm
          have hlt : j < i := lt_of_le_of_ne (hlast j c' rest' hj) fun heq => ht (by rw [heq])
          have hover := h.serial j i m c' c rest' rest hlt hj hjob
          cases rest' with
          | assign id next => cases hover
          | _ => rfl
        · rfl
  | _ => rfl

theorem isOver_of_not_busy (h : o.isBusy n = false) {rest : Program Unit}
    (hjob : o.jobs[i]? = some (.upkeep n c rest)) : rest.isOver = true := by
  have hholds := (List.any_eq_false.mp h) _ (List.mem_of_getElem? hjob)
  rw [Job.holds, beq_self_eq_true, Bool.true_and] at hholds
  simpa using hholds

/-- A call that is over stays as it is. -/
theorem isOver_step {τ : Type} {p : Program Unit} (h : p.isOver = true) (answers : Answers τ) (w : World τ) :
    (p.step answers w).1.isOver = true := by
  cases p with
  | done a => rfl
  | fail f => rfl
  | _ => cases h

/-! ### Phases behind a turn -/

/-- A call that was left alone is as far as it was. -/
theorem Phase.later {turns : List (Turn σ)} {rest : Program Unit} (h : Phase v answers o turns i n c rest) {t : Turn σ}
    (hnone : (o.run v answers turns).IsLast i n → (o.run v answers turns).assigned? n t = none) :
    Phase v answers o (turns ++ [t]) i n c rest := by
  cases h with
  | fresh h => exact .fresh h
  | failed f => exact .failed f
  | holding hs hid h => exact .holding (hs.later t) (by rw [run_concat]; exact hid.turn hnone) h
  | closing hs hid he hcaller hreply hsends h =>
    refine .closing (hs.later t) ?_ ?_ hcaller hreply hsends h
    · rw [run_concat]
      exact hid.turn hnone
    · rw [run_concat]
      exact Outpost.subset_turn _ v answers t he

/-- A call that takes a step gets further. -/
theorem Phase.step {turns : List (Turn σ)} {rest : Program Unit} (h : Phase v answers o turns i n c rest)
    (hjob : (o.run v answers turns).jobs[i]? = some (.upkeep n c rest)) :
    Phase v answers o (turns ++ [.step i]) i n c
      (rest.step (Transcript.answers answers (.keeper i n))
        ((o.run v answers turns).world (o.run v answers turns).sessions[n]?)).1 := by
  have hassigned : (o.run v answers turns).assigned? n (.step i) = rest.assigned? := by
    rw [Outpost.assigned?, hjob]
    exact if_pos rfl
  have hturn : (o.run v answers turns).turn v answers (.step i) =
      (o.run v answers turns).stepUpkeep answers i n c rest := by rw [Outpost.turn, hjob]
  cases h with
  | fresh h =>
    obtain ⟨next, hnext, hholding⟩ := lifecycle_eq v c
    rw [h, hnext] at hjob hassigned ⊢
    cases hs : (o.run v answers turns).sessions[n]? with
    | none => exact .failed .notFound
    | some s =>
      refine .holding ⟨turns, [], rfl, ⟨next, hjob⟩, hs⟩ ?_ (hholding s.record)
      rw [run_concat]
      exact Outpost.IsAt.turn ⟨s, hs, fun _ => rfl⟩ fun _ => hassigned
  | failed f => exact .failed f
  | @holding s _ hs hid h =>
    have hstays : ∀ rest', rest.assigned? = none → Holding v c s.record rest' →
        Phase v answers o (turns ++ [.step i]) i n c rest' := by
      intro rest' hnone hholding
      refine .holding (hs.later _) ?_ hholding
      rw [run_concat]
      exact hid.turn fun _ => hassigned.trans hnone
    cases rest with
    | fail f => exact .failed f
    | ask q next =>
      obtain ⟨id, hsends, hfail, hclosing⟩ := h
      show Phase v answers o _ i n c (next (answers (o.run v answers turns).transcript.store
        (o.run v answers turns).clock q).1)
      cases hreply : (answers (o.run v answers turns).transcript.store (o.run v answers turns).clock q).1 with
      | error f =>
        rw [hfail]
        exact .failed f
      | ok text =>
        refine .closing (e := ⟨.keeper i n, (o.run v answers turns).clock, q, .ok text⟩) (hs.later _) ?_ ?_ rfl rfl
          hsends (hclosing text)
        · rw [run_concat]
          exact hid.turn fun _ => hassigned
        · rw [run_concat, hturn, ← hreply]
          exact List.mem_cons_self
    | clock next => exact hstays _ rfl (h _)
    | draw k next => exact hstays _ rfl (h _ (Entropy.length_draw _ _))
    | done a => exact h.elim
    | note line next => exact h.elim
    | snapshot next => exact h.elim
    | assign id next => exact h.elim
  | @closing s old id e _ hs hid he hcaller hreply hsends h =>
    have hexchange : e ∈ (o.run v answers (turns ++ [.step i])).exchanges := by
      rw [run_concat]
      exact Outpost.subset_turn _ v answers _ he
    have hstays : ∀ rest', rest.assigned? = none → Closing c old id rest' →
        Phase v answers o (turns ++ [.step i]) i n c rest' := by
      intro rest' hnone hclosing
      refine .closing (hs.later _) ?_ hexchange hcaller hreply hsends hclosing
      rw [run_concat]
      exact hid.turn fun _ => hassigned.trans hnone
    cases rest with
    | done a => exact hstays _ rfl h
    | note line next => exact hstays _ rfl h
    | assign id' next =>
      obtain ⟨-, rfl, hnext⟩ := h
      refine .closing (hs.later _) ?_ hexchange hcaller hreply hsends hnext
      -- From here on the session has the identifier that it was moved to.
      obtain ⟨t, ht, -⟩ := hid
      rw [run_concat]
      refine ⟨_, turn_session ht _, fun _ => ?_⟩
      rw [Session.id_withId, hassigned]
      rfl
    | fail f => exact h.elim
    | ask q next => exact h.elim
    | clock next => exact h.elim
    | draw k next => exact h.elim
    | snapshot next => exact h.elim

/-! ### The invariant -/

/-- What a call asks the store for is what it sends. -/
theorem Phase.sends {turns : List (Turn σ)} {q : Request} {next : Reply → Program Unit}
    (h : Phase v answers o turns i n c (.ask q next)) :
    ∃ s id, Taken v answers o turns i n c s ∧ v.Sends s.record c id q := by
  cases h with
  | fresh h => exact absurd h (lifecycle_ne (by simp))
  | holding hs hid h =>
    obtain ⟨id, hsends, -⟩ := h
    exact ⟨_, id, hs, hsends⟩
  | closing hs hid he hcaller hreply hsends h => exact h.elim

/-- A request of a call was written down before a turn, or it is the one that the turn makes. -/
theorem exchange_turn {t : Turn σ} {e : Exchange} (he : e ∈ (o.turn v answers t).exchanges)
    (hcaller : e.caller = .keeper i n) :
    e ∈ o.exchanges ∨ ∃ c next, o.jobs[i]? = some (.upkeep n c (.ask e.request next)) := by
  rcases o.turn_cases v answers t with ⟨j, anew, name, id, rest, -, hj, hturn⟩ | ⟨j, m, c, rest, -, hj, hturn⟩ |
      ⟨-, hes, -⟩
  · rw [hturn] at he
    replace he : e ∈ (rest.step (Transcript.answers answers (.finder j name id)) (o.world none)).2.store.exchanges := he
    rcases Outpost.exchanges_step answers rest (.finder j name id) (o.world none) with hstore | ⟨r, next, -, hes⟩
    · rw [hstore] at he
      exact Or.inl he
    · rw [hes] at he
      rcases List.mem_cons.mp he with rfl | he
      · cases hcaller
      · exact Or.inl he
  · rw [hturn] at he
    replace he : e ∈ (rest.step (Transcript.answers answers (.keeper j m))
      (o.world o.sessions[m]?)).2.store.exchanges := he
    rcases Outpost.exchanges_step answers rest (.keeper j m) (o.world o.sessions[m]?) with hstore | ⟨r, next, rfl, hes⟩
    · rw [hstore] at he
      exact Or.inl he
    · rw [hes] at he
      rcases List.mem_cons.mp he with rfl | he
      · cases hcaller
        exact Or.inr ⟨c, next, hj⟩
      · exact Or.inl he
  · rw [hes] at he
    exact Or.inl he

/-- A call behind a turn and the same call before it, unless it has just begun: one that was over is over. -/
theorem over_turn {t : Turn σ} {rest : Program Unit}
    (hjob : (o.turn v answers t).jobs[i]? = some (.upkeep n c rest)) :
    (∃ rest', o.jobs[i]? = some (.upkeep n c rest') ∧ (rest'.isOver = true → rest.isOver = true)) ∨
      i = o.jobs.length ∧ o.isBusy n = false := by
  rcases upkeep_turn hjob with ⟨hold, -⟩ | ⟨rest', -, hold, -, rfl⟩ | ⟨hlast, hbusy, -⟩
  · exact Or.inl ⟨rest, hold, id⟩
  · exact Or.inl ⟨rest', hold, fun hover => isOver_step hover _ _⟩
  · exact Or.inr ⟨hlast, hbusy⟩

theorem Orderly.concat {turns : List (Turn σ)} (h : Orderly v answers o turns) (t : Turn σ) :
    Orderly v answers o (turns ++ [t]) where
  phase i n c rest hjob := by
    rw [run_concat] at hjob
    rcases upkeep_turn hjob with ⟨hold, ht⟩ | ⟨rest', rfl, hold, -, rfl⟩ | ⟨-, -, rfl⟩
    · exact (h.phase i n c rest hold).later (h.not_assigned hold ht)
    · exact (h.phase i n c rest' hold).step hold
    · exact .fresh rfl
  serial i j n c c' rest rest' hij hi hj := by
    rw [run_concat] at hi hj
    rcases over_turn hi with ⟨ri, hi, hover⟩ | ⟨hilast, -⟩
    · rcases over_turn hj with ⟨rj, hj, -⟩ | ⟨-, hbusy⟩
      · exact hover (h.serial i j n c c' ri rj hij hi hj)
      · exact hover (isOver_of_not_busy hbusy hi)
    · rcases over_turn hj with ⟨rj, hj, -⟩ | ⟨hjlast, -⟩
      · have hlt := (List.getElem?_eq_some_iff.mp hj).1
        omega
      · omega
  sends e he i n hcaller := by
    rw [run_concat] at he
    rcases exchange_turn he hcaller with hold | ⟨c, next, hjob⟩
    · obtain ⟨c, s, id, hs, hsends⟩ := h.sends e hold i n hcaller
      exact ⟨c, s, id, hs.later t, hsends⟩
    · obtain ⟨s, id, hs, hsends⟩ := (h.phase i n c _ hjob).sends
      exact ⟨c, s, id, hs.later t, hsends⟩

theorem Orderly.append {before : List (Turn σ)} (h : Orderly v answers o before) (turns : List (Turn σ)) :
    Orderly v answers o (before ++ turns) := by
  induction turns generalizing before with
  | nil => rwa [List.append_nil]
  | cons t turns ih =>
    rw [List.append_cons]
    exact ih (h.concat t)

theorem orderly_start (v : Vault) (answers : Answers σ) (clock : Instant) (entropy : Entropy) (store : σ)
    (sessions : Array Session) : Orderly v answers (Outpost.start clock entropy store sessions) [] where
  phase i n c rest hjob := by cases hjob
  serial i j n c c' rest rest' _ hjob := by cases hjob
  sends e he := by cases he

theorem orderly_run (v : Vault) (answers : Answers σ) (clock : Instant) (entropy : Entropy) (store : σ)
    (sessions : Array Session) (turns : List (Turn σ)) :
    Orderly v answers (Outpost.start clock entropy store sessions) turns :=
  (orderly_start v answers clock entropy store sessions).append turns

/-! ### What it says of a run -/

/-- What is left of a call that has moved its session and is about to say so. -/
theorem Phase.assigns {turns : List (Turn σ)} {id : String} {next : Program Unit}
    (h : Phase v answers o turns i n c (.assign id next)) :
    c = .rotate ∧ ∃ e ∈ (o.run v answers turns).exchanges, e.caller = .keeper i n ∧ e.reply.isOk = true ∧
      ∃ s, Taken v answers o turns i n c s ∧ v.Sends s.record c id e.request := by
  cases h with
  | fresh h => exact absurd h (lifecycle_ne (by simp))
  | holding hs hid h => exact h.elim
  | closing hs hid he hcaller hreply hsends h =>
    obtain ⟨hc, rfl, -⟩ := h
    exact ⟨hc, _, he, hcaller, hreply, _, hs, hsends⟩

/-- What a call has done that has succeeded. -/
theorem Phase.ended {turns : List (Turn σ)} (h : Phase v answers o turns i n c (.done ())) :
    ∃ s id, Taken v answers o turns i n c s ∧ (o.run v answers turns).IsAt i n id ∧
      ∃ e ∈ (o.run v answers turns).exchanges, e.caller = .keeper i n ∧ e.reply.isOk = true ∧
        v.Sends s.record c id e.request := by
  cases h with
  | fresh h => exact absurd h (lifecycle_ne (by simp))
  | holding hs hid h => exact h.elim
  | @closing s old id e _ hs hid he hcaller hreply hsends h =>
    have hsame : old = id := h
    exact ⟨s, id, hs, hsame ▸ hid, e, he, hcaller, hreply, hsends⟩

/-- Behind a persist or a rotation that has succeeded, before another call begins, a session that was not changed since
the call read it is the record that the request of the call leaves under its key. -/
theorem Orderly.kept {turns : List (Turn σ)} (h : Orderly v answers o turns)
    (hjob : (o.run v answers turns).jobs[i]? = some (.upkeep n c (.done ()))) (hc : c ≠ .destroy)
    (hlast : (o.run v answers turns).IsLast i n) :
    ∃ before after s t, turns = before ++ .step i :: after ∧ Snapshot v answers o before i n c s ∧
      (o.run v answers turns).sessions[n]? = some t ∧
      ((∀ c', Turn.change n c' ∉ after) →
        t.record = { s.record with id := t.id } ∧
        ∃ e ∈ (o.run v answers turns).exchanges, e.caller = .keeper i n ∧ e.reply.isOk = true ∧
          ∃ (nonce : Bytes) (ttl : Duration), nonce.length = v.envelope.cipher.algorithm.nonceSize ∧
            e.request.leaves e.instant (v.key t.name t.id) =
              some (some ⟨v.wrap nonce t.record, e.instant.add ttl⟩)) := by
  obtain ⟨s, id, ⟨before, after, hturns, hsnapshot⟩, ⟨t, ht, hid⟩, e, he, hcaller, hreply, hsends⟩ :=
    (h.phase i n c _ hjob).ended
  refine ⟨before, after, s, t, hturns, hsnapshot, ht, ?_⟩
  intro hunchanged
  have hrecord : t.record = { s.record with id := t.id } :=
    record_of_unchanged hturns hsnapshot.2 ht (by simpa using hunchanged)
  obtain ⟨nonce, ttl, hn, hleaves⟩ := hsends.leaves hc
  refine ⟨hrecord, e, he, hcaller, hreply, nonce, ttl, hn, ?_⟩
  have hname : t.name = s.record.name := by
    rw [Session.name, hrecord]
  rw [hname, hrecord, hid hlast]
  exact hleaves e.instant

/-- Whatever happens at an outpost, and whatever its store answers, to the session with a number:

* at every moment it is what the changes alone, made in their order, have made of it, under the identifier that it was
  last given; and it is given one only by a rotation whose request was answered without a failure, the one that this
  request has moved it to;
* every request of a call on it sends the record that the call has read;
* behind a persist or a rotation that has succeeded, before another call begins: if the session was not changed since
  the call read it, the request of the call leaves the very record that the session has, under its own key. -/
theorem no_update_lost (v : Vault) (answers : Answers σ) (clock : Instant) (entropy : Entropy) (store : σ)
    (sessions : Array Session) (turns : List (Turn σ)) (n : Nat) :
    let start := Outpost.start clock entropy store sessions
    let o := start.run v answers turns
    (∀ before after s, turns = before ++ after → (start.run v answers before).sessions[n]? = some s →
        o.sessions[n]? = some ((mutated n s (start.run v answers before).clock after).withId
          ((start.run v answers before).lastId v answers n s.id after))) ∧
      (∀ i c id next, o.jobs[i]? = some (.upkeep n c (.assign id next)) →
        c = .rotate ∧ ∃ e ∈ o.exchanges, e.caller = .keeper i n ∧ e.reply.isOk = true ∧
          ∃ s, Taken v answers start turns i n c s ∧ v.Sends s.record c id e.request) ∧
      (∀ e ∈ o.exchanges, ∀ i, e.caller = .keeper i n →
        ∃ c s id, Taken v answers start turns i n c s ∧ v.Sends s.record c id e.request) ∧
      ∀ i c, o.jobs[i]? = some (.upkeep n c (.done ())) → c ≠ .destroy → o.IsLast i n →
        ∃ before after s t, turns = before ++ .step i :: after ∧ Snapshot v answers start before i n c s ∧
          o.sessions[n]? = some t ∧
          ((∀ c', Turn.change n c' ∉ after) →
            t.record = { s.record with id := t.id } ∧
            ∃ e ∈ o.exchanges, e.caller = .keeper i n ∧ e.reply.isOk = true ∧
              ∃ (nonce : Bytes) (ttl : Duration), nonce.length = v.envelope.cipher.algorithm.nonceSize ∧
                e.request.leaves e.instant (v.key t.name t.id) =
                  some (some ⟨v.wrap nonce t.record, e.instant.add ttl⟩)) := by
  intro start o
  have horderly : Orderly v answers start turns := orderly_run v answers clock entropy store sessions turns
  exact ⟨fun before after s hturns hs => session_between hturns hs,
    fun i c id next hjob => (horderly.phase i n c _ hjob).assigns,
    fun e he i hcaller => horderly.sends e he i n hcaller,
    fun i c hjob hc hlast => horderly.kept hjob hc hlast⟩

/-! ### What a keyspace shows of it -/

/-- What was said to a store, without what it answered. -/
def Exchange.event (e : Exchange) : Event :=
  ⟨match e.caller with
    | .finder i _ _ => .finder i
    | .keeper _ n => .keeper n, e.instant, e.request⟩

/-- Over a keyspace that its owner leaves alone, what was written down is what the keyspace shows. -/
theorem recorded_run {base : String → Option Entry} {o : Outpost Keyspace} {turns : List (Turn Keyspace)}
    (h : Recorded base o.clock o.transcript.store (o.exchanges.map Exchange.event))
    (hturns : ∀ store, Turn.seize store ∉ turns) :
    Recorded base (o.run v Keyspace.reply turns).clock (o.run v Keyspace.reply turns).transcript.store
      ((o.run v Keyspace.reply turns).exchanges.map Exchange.event) := by
  induction turns generalizing o with
  | nil => exact h
  | cons t turns ih =>
    have hnot : ∀ store, t ≠ .seize store := fun store heq => hturns store (heq ▸ List.mem_cons_self)
    refine ih ?_ fun store hmem => hturns store (List.mem_cons_of_mem _ hmem)
    rw [turn_clock, Outpost.exchanges]
    cases t with
    | tick d => exact h.tick d
    | _ =>
      rcases o.turn_transcript hnot v Keyspace.reply with hsame | ⟨caller, r, hsaid⟩
      · rw [hsame]
        exact h
      · rw [hsaid]
        exact h.answer _ r

/-- Over a keyspace that its owner leaves alone, behind a persist or a rotation that has succeeded and before another
call on the session begins: if the session was not changed since the call read it, and nobody has written or deleted its
key behind the request of the call, the keyspace shows the very record that the session has under its own key, until the
entry expires. -/
theorem shown_of_kept (v : Vault) {clock : Instant} (entropy : Entropy) {k : Keyspace} (sessions : Array Session)
    {turns : List (Turn Keyspace)} (n : Nat) (hplain : clock.Plain) (hk : k.Ascending)
    (hturns : ∀ store, Turn.seize store ∉ turns) :
    let start := Outpost.start clock entropy k sessions
    let o := start.run v Keyspace.reply turns
    ∀ i c, o.jobs[i]? = some (.upkeep n c (.done ())) → c ≠ .destroy → o.IsLast i n →
      ∃ before after s t, turns = before ++ .step i :: after ∧ Snapshot v Keyspace.reply start before i n c s ∧
        o.sessions[n]? = some t ∧
        ((∀ c', Turn.change n c' ∉ after) →
          ∃ later e earlier, o.exchanges = later ++ e :: earlier ∧ e.caller = .keeper i n ∧
            ∃ (nonce : Bytes) (ttl : Duration), nonce.length = v.envelope.cipher.algorithm.nonceSize ∧
              ((∀ e' ∈ later, e'.request.leaves e'.instant (v.key t.name t.id) = none) →
                o.transcript.store.shown (v.key t.name t.id) o.clock =
                  (some ⟨v.wrap nonce t.record, e.instant.add ttl⟩ : Option Entry).filter
                    fun entry => entry.isLive o.clock)) := by
  intro start o i c hjob hc hlast
  obtain ⟨before, after, s, t, hsplit, hsnapshot, ht, hkept⟩ :=
    (orderly_run v Keyspace.reply clock entropy k sessions turns).kept hjob hc hlast
  refine ⟨before, after, s, t, hsplit, hsnapshot, ht, ?_⟩
  intro hunchanged
  obtain ⟨-, e, he, hcaller, -, nonce, ttl, hn, hleaves⟩ := hkept hunchanged
  obtain ⟨later, earlier, hexchanges⟩ := List.append_of_mem he
  refine ⟨later, e, earlier, hexchanges, hcaller, nonce, ttl, hn, ?_⟩
  intro huntouched
  have hlater : left (later.map Exchange.event) (v.key t.name t.id) = none :=
    left_eq_none (List.forall_mem_map.mpr huntouched)
  have hrecorded := recorded_run (v := v) (o := start) (recorded_start hplain hk) hturns
  rw [show o.transcript.store.shown _ o.clock = _ from hrecorded.shown _, hexchanges, List.map_append, left_append,
    hlater, List.map_cons, left_cons_of_leaves (show e.event.request.leaves e.event.instant _ = _ from hleaves)]
  rfl

end SessionVault
