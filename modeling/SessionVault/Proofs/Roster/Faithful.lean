import SessionVault.Proofs.Roster.Refinement

/-!
# How far a vault can be taken for a table

Clients take a vault for a table that gives back the records put into it.  A bench does so as far as the records
that are found are settled (`Record.Settled`): a record whose values are nested more than 125 levels deep is
written without an error and never read again, and so is one with a real that its text does not say.

* `Faithful` — every record that an act of a list finds is settled;
* `answers_eq_iff` — a list of acts is answered as by the table exactly if it is faithful;
* `load_eq_of_not_touches` — an act on other sessions never changes what is found under a name and an identifier;
* `serves_as_table` — the three facts about a bench that starts with nothing.
-/

namespace SessionVault

/-- An act moves the clock, or it is a call on the session under a name and an identifier: one that the session has
before the call or behind it. -/
def Bench.Touches (b : Bench) (name id : String) : Act → Prop
  | .tick _ => True
  | .call n c => ∃ s s', b.sessions[n]? = some s ∧ (b.serve (.call n c)).2.sessions[n]? = some s' ∧ name = s.name ∧
      (id = s.id ∨ id = s'.id)
  | _ => False

namespace Roster

variable {v : Vault} {a : Roster} {read : Record → Except Failure Record}

/-! ### Records that are found -/

/-- The record that is there for an act that looks for one. -/
def found? (a : Roster) : Act → Option Record
  | .load name id => if Identifier.isValid id then a.live? name id else none
  | .resolve incoming name =>
    (incoming.filter (· ≠ "")).bind fun id => if Identifier.isValid id then a.live? name id else none
  | _ => none

/-- Every record that the acts of a list find is read as itself. -/
def Faithful (v : Vault) : Roster → List Act → Prop
  | _, [] => True
  | a, act :: acts => (∀ r ∈ a.found? act, r.Settled) ∧ Faithful v (a.serve v .ok act).2 acts

theorem find_of_found {name id : String} {r : Record}
    (h : (if Identifier.isValid id then a.live? name id else none) = some r) :
    a.find read name id = (read r).map Session.ofRecord := by
  split at h
  · rename_i hid
    rw [find, hid, h]
    rfl
  · cases h

theorem find_of_not_found {name id : String} (h : (if Identifier.isValid id then a.live? name id else none) = none)
    (read' : Record → Except Failure Record) : a.find read name id = a.find read' name id := by
  rw [find, find]
  split at h
  · rw [h]
  · rename_i hid
    rw [Bool.not_eq_true] at hid
    rw [hid]
    rfl

/-- An act that finds only settled records is answered as by the table. -/
theorem serve_of_settled {act : Act} (h : ∀ r ∈ a.found? act, r.Settled) :
    a.serve v Record.reread act = a.serve v .ok act := by
  have hfind : ∀ name id, (∀ r ∈ (if Identifier.isValid id then a.live? name id else none), r.Settled) →
      a.find Record.reread name id = a.find .ok name id := by
    intro name id hset
    cases hr : if Identifier.isValid id then a.live? name id else none with
    | none => exact find_of_not_found hr _
    | some r => rw [find_of_found hr, find_of_found hr, (Record.reread_eq_self_iff r).mpr (hset r hr)]
  cases act with
  | load name id => rw [serve, serve, hfind name id h]
  | resolve incoming name =>
    rw [serve, serve]
    rw [found?] at h
    cases hid : incoming.filter (· ≠ "") with
    | none => rfl
    | some id =>
      rw [hid] at h
      dsimp only
      rw [hfind name id h]
  | create name ttl => rfl
  | change n c => rfl
  | call n c => rfl
  | tick d => rfl

/-- An act that is answered as by the table finds only settled records. -/
theorem settled_of_serve {act : Act} (h : (a.serve v Record.reread act).1 = (a.serve v .ok act).1) :
    ∀ r ∈ a.found? act, r.Settled := by
  have hsame : ∀ r r' : Record, Session.ofRecord r' = Session.ofRecord r → r.reread = .ok r' → r.Settled := by
    intro r r' hs hr
    cases hs
    exact (Record.reread_eq_self_iff r).mp hr
  intro r hr
  cases act with
  | load name id =>
    rw [serve, serve, find_of_found hr, find_of_found hr] at h
    cases hread : r.reread with
    | error f =>
      rw [hread] at h
      cases h
    | ok r' =>
      rw [hread] at h
      exact hsame r r' (Option.some.inj (Except.ok.inj (Outcome.ended.inj h))) hread
  | resolve incoming name =>
    rw [found?] at hr
    obtain ⟨id, hid, hr⟩ := Option.bind_eq_some_iff.mp hr
    rw [serve, serve, hid] at h
    dsimp only at h
    rw [find_of_found hr, find_of_found hr] at h
    cases hread : r.reread with
    | error f =>
      -- The session that is made in its place is a new one.
      rw [hread] at h
      dsimp only [Except.map] at h
      split at h
      · have hnew := congrArg Session.isNew (Option.some.inj (Except.ok.inj (Outcome.ended.inj h)))
        cases hnew
      · cases h
    | ok r' =>
      rw [hread] at h
      exact hsame r r' (Option.some.inj (Except.ok.inj (Outcome.ended.inj h))) hread
  | create name ttl => cases hr
  | change n c => cases hr
  | call n c => cases hr
  | tick d => cases hr

/-- A list of acts is answered as by the table exactly if it finds only settled records. -/
theorem answers_eq_iff (v : Vault) (a : Roster) (acts : List Act) :
    (answers (serve v Record.reread) a acts).1 = (answers (serve v .ok) a acts).1 ↔ Faithful v a acts := by
  induction acts generalizing a with
  | nil => exact ⟨fun _ => trivial, fun _ => rfl⟩
  | cons act acts ih =>
    rw [answers, answers, Faithful]
    constructor
    · intro h
      obtain ⟨hhead, htail⟩ := List.cons.inj h
      have hset := settled_of_serve hhead
      rw [serve_of_settled hset] at htail
      exact ⟨hset, (ih _).mp htail⟩
    · rintro ⟨hset, htail⟩
      rw [serve_of_settled hset, (ih _).mpr htail]

/-! ### Other sessions -/

theorem find_congr {a' : Roster} {name id : String} (h : a'.live? name id = a.live? name id) :
    a'.find read name id = a.find read name id := by
  rw [find, find, h]

/-- A call changes only what is under the identifiers that its session has before and behind it. -/
theorem live?_call {n : Nat} {s s' : Session} {c : Lifecycle} {name id : String} (hs : a.sessions[n]? = some s)
    (hs' : (a.call v n s c).2.sessions[n]? = some s') (h : ¬(name = s.name ∧ (id = s.id ∨ id = s'.id))) :
    (a.call v n s c).2.live? name id = a.live? name id := by
  have hold : ¬(name = s.name ∧ id = s.id) := fun hkey => h ⟨hkey.1, Or.inl hkey.2⟩
  cases c with
  | persist =>
    rw [call]
    split
    · exact (live?_put _ _ _ _ _ _).trans (if_neg hold)
    · rfl
  | rotate =>
    rw [call] at hs' ⊢
    split at hs'
    · rename_i hw
      rw [if_pos hw]
      replace hs' : (a.sessions.modify n _)[n]? = some s' := hs'
      rw [getElem?_modify_self, hs] at hs'
      cases hs'
      have hnew : ¬(name = s.name ∧ id = Identifier.ofOctets (a.entropy.draw Identifier.entropySize).1) :=
        fun hkey => h ⟨hkey.1, Or.inr hkey.2⟩
      rw [live?_put, if_neg hnew, live?_put, if_neg hold]
      rfl
    · rename_i hw
      rw [if_neg hw]
  | destroy => exact (live?_put _ _ _ _ _ _).trans (if_neg hold)

/-- An act that moves no clock and is no call on a session leaves what is under its name and identifier. -/
theorem Agree.live?_serve {b : Bench} (h : Agree v b a) {name id : String} {act : Act} (hn : ¬b.Touches name id act) :
    (a.serve v Record.reread act).2.live? name id = a.live? name id := by
  cases act with
  | create name' ttl => rfl
  | load name' id' =>
    rw [serve]
    split <;> rfl
  | resolve incoming name' =>
    rw [serve]
    split
    · rfl
    · split
      · rfl
      · split <;> rfl
  | change n c =>
    rw [serve]
    split
    · rfl
    · split <;> rfl
  | call n c =>
    have hserve := (serve_call h n c).2.sessions n
    rw [serve] at hserve ⊢
    cases hs : a.sessions[n]? with
    | none => rfl
    | some s =>
      rw [hs] at hserve
      -- A call never takes a session away.
      obtain ⟨s', hs'⟩ : ∃ s', (a.call v n s c).2.sessions[n]? = some s' := by
        cases c with
        | persist =>
          rw [call]
          split <;> exact ⟨s, hs⟩
        | rotate =>
          rw [call]
          split
          · exact ⟨_, (getElem?_modify_self n _ _).trans (congrArg _ hs)⟩
          · exact ⟨s, hs⟩
        | destroy => exact ⟨s, hs⟩
      exact live?_call hs hs' fun hname => hn ⟨s, s', (h.sessions n).trans hs, hserve.trans hs', hname⟩
  | tick d => exact absurd trivial hn

/-- An act on other sessions never changes what is found under a name and an identifier. -/
theorem Agree.load_eq_of_not_touches {b : Bench} (h : Agree v b a) {name id : String} {act : Act}
    (hn : ¬b.Touches name id act) : ((b.serve act).2.serve (.load name id)).1 = (b.serve (.load name id)).1 := by
  have hfind : (a.serve v Record.reread act).2.find Record.reread name id = a.find Record.reread name id :=
    find_congr (h.live?_serve hn)
  rw [(serve_load (serve_agree h act).2 name id).1, (serve_load h name id).1]
  rw [serve, serve, hfind]
  cases a.find Record.reread name id <;> rfl

/-- A bench that starts with nothing answers any list of acts as the table does whose records are read again from
their text.  These are the answers of the table that gives records back as they are exactly if the list is
faithful.  And what is found under a name and an identifier is changed by no act on another session. -/
theorem serves_as_table (v : Vault) (d : Duration) (entropy : Entropy) (acts : List Act) :
    (answers Bench.serve (Bench.start v d entropy) acts).1 =
        (answers (serve v Record.reread) (start d entropy) acts).1 ∧
      ((answers Bench.serve (Bench.start v d entropy) acts).1 = (answers (serve v .ok) (start d entropy) acts).1 ↔
        Faithful v (start d entropy) acts) ∧
      ∀ (act : Act) (name id : String), ¬(answers Bench.serve (Bench.start v d entropy) acts).2.Touches name id act →
        (((answers Bench.serve (Bench.start v d entropy) acts).2.serve act).2.serve (.load name id)).1 =
          ((answers Bench.serve (Bench.start v d entropy) acts).2.serve (.load name id)).1 := by
  obtain ⟨hanswers, hagree⟩ := answers_agree (agree_start v d entropy) acts
  refine ⟨hanswers, ?_, fun act name id hn => hagree.load_eq_of_not_touches hn⟩
  rw [hanswers]
  exact answers_eq_iff v (start d entropy) acts

/-! ### A session that is lost -/

/-- The empty list in a list, that one in a list, and so on. -/
def nested : Nat → Json
  | 0 => .array []
  | n + 1 => .array [nested n]

theorem depth_nested (n : Nat) : (nested n).depth = n + 1 := by
  induction n with
  | zero => rfl
  | succ n ih => rw [nested, Json.depth, Json.itemsDepth, Json.itemsDepth, ih, Nat.max_zero]

/-- A session is given a list of 126 levels, it is written, and it is looked for. -/
def deepActs : List Act :=
  [.create "sid" (some (.ofSeconds 60)), .change 0 (.set "k" (.json (nested 125))), .call 0 .persist,
    .load "sid" Vault.sampleId]

/-- The session is written without an error, and not found again. -/
theorem deep_not_served :
    (answers Bench.serve (Bench.start Vault.sample ⟨0⟩ Vault.sampleEntropy) deepActs).1 ≠
      (answers (serve Vault.sample .ok) (start ⟨0⟩ Vault.sampleEntropy) deepActs).1 := by
  intro h
  rw [(answers_agree (agree_start Vault.sample ⟨0⟩ Vault.sampleEntropy) deepActs).1, answers_eq_iff] at h
  obtain ⟨-, -, -, hload, -⟩ := h
  have hfound : ∃ r, (((((start ⟨0⟩ Vault.sampleEntropy).serve Vault.sample .ok
      (.create "sid" (some (.ofSeconds 60)))).2.serve Vault.sample .ok (.change 0 (.set "k" (.json (nested 125))))).2.serve
        Vault.sample .ok (.call 0 .persist)).2.found? (.load "sid" Vault.sampleId)) = some r ∧
      r.values = [("k", nested 125)] := ⟨_, rfl, rfl⟩
  obtain ⟨r, hr, hvalues⟩ := hfound
  have hdepth := (hload r hr).depth_le
  rw [hvalues, Json.membersDepth, Json.membersDepth, depth_nested] at hdepth
  exact absurd hdepth (by decide)

end Roster

end SessionVault
