import SessionVault.Proofs.Envelope.Stages
import SessionVault.Proofs.Vault.Calls

/-!
# What a resolve comes to

A resolve gives the session under the identifier that came in, or a new session, or the failure of the store.  The
store may be any that answers by a function, and it may answer anything.

* `run_load` — a search changes nothing but the store, and what it finds belongs where it was looked for;
* `run_resolve` — a resolve is a search, with a new session behind one that found none that can be used;
* `resolve_cases` — the three outcomes of a resolve, and `resolve_eq_error_iff`, `resolve_eq_ok_iff`, when each arises;
* `Troubled` — the store fails a search, with its request or with its clean-up; `resolve_eq_error_iff_troubled`, that a
  resolve passes this on, and has no other failures;
* `eq_start_of_isNew` — a new session comes from the entropy and the clock alone;
* `free_resolve` — what a resolve may ask of the store;
* `resolves_to_found_or_fresh` — all of this as one law, with the new session the same whatever came in.
-/

namespace SessionVault.Vault

open Program

variable {σ : Type} {answers : Answers σ} {v : Vault}

/-! ### Searches -/

/-- A session that belongs under a name and an identifier, and is not past its expiry. -/
structure Found (name id : String) (now : Instant) (s : Session) : Prop where
  isNew : s.isNew = false
  id : s.id = id
  name : s.name = name
  live : now.before s.record.expiresAt = true

theorem run_check (v : Vault) (answers : Answers σ) (name : String) (r : Record) (w : World σ) :
    ∃ store, ((v.check name r.id r).run answers w).2 = { w with store := store } ∧
      ∀ s, ((v.check name r.id r).run answers w).1 = .ok s → r.name = name → Found name r.id w.clock s := by
  rw [check, run]
  split
  · rename_i hlive
    refine ⟨w.store, rfl, ?_⟩
    intro s hs hname
    cases hs
    exact ⟨rfl, rfl, hname, hlive⟩
  · -- The clean-up ends in a failure, whatever it is answered.
    refine ⟨(answers w.store w.clock (.delete (v.key name r.id))).2, ?_⟩
    rw [run, cleanup, run]
    cases (answers w.store w.clock (.delete (v.key name r.id))).1 with
    | error f => exact ⟨rfl, fun s hs => by cases hs⟩
    | ok x => exact ⟨rfl, fun s hs => by cases hs⟩

/-- What a search does with an answer changes nothing but the store, and gives only what belongs to the search. -/
theorem run_receive (v : Vault) (answers : Answers σ) (name id : String) (reply : Reply) (w : World σ) :
    ∃ store, ((v.receive name id reply).run answers w).2 = { w with store := store } ∧
      ∀ s, ((v.receive name id reply).run answers w).1 = .ok s → Found name id w.clock s := by
  cases reply with
  | error f => exact ⟨w.store, rfl, fun s hs => by cases hs⟩
  | ok text =>
    cases text with
    | none => exact ⟨w.store, rfl, fun s hs => by cases hs⟩
    | some text =>
      rw [receive, ofExcept_ok]
      dsimp only
      cases v.envelope.read Record.decoder text (associated name) with
      | error f => exact ⟨w.store, rfl, fun s hs => by cases hs⟩
      | ok r =>
        rw [ofExcept_ok]
        split
        · exact ⟨w.store, rfl, fun s hs => by cases hs⟩
        · rename_i hbelongs
          obtain ⟨hid, hname⟩ := not_or.mp hbelongs
          rw [not_not] at hid hname
          subst hid
          obtain ⟨store, hworld, hfound⟩ := run_check v answers name r w
          exact ⟨store, hworld, fun s hs => hfound s hs hname⟩

/-- A search changes nothing but the store, and what it finds belongs where it was looked for. -/
theorem run_load (v : Vault) (answers : Answers σ) (name id : String) (w : World σ) :
    ∃ store, ((v.load name id).run answers w).2 = { w with store := store } ∧
      ∀ s, ((v.load name id).run answers w).1 = .ok s → Found name id w.clock s := by
  rw [load_eq]
  split
  · exact ⟨w.store, rfl, fun s hs => by cases hs⟩
  · rw [run]
    exact run_receive v answers name id _ { w with store := (answers w.store w.clock (.get (v.key name id))).2 }

/-! ### Resolves -/

/-- What is noted where no session can be used. -/
def unusableNote (name id : String) (f : Failure) : Note :=
  ⟨.debug, "No usable session, starting a new one",
    [("session_name", name), ("session_id", Identifier.shown id), ("reason", f.message)]⟩

/-- What a resolve does with the outcome of its search. -/
def settle (v : Vault) (name id : String) : Except Failure Session → Program Session
  | .ok s => .done s
  | .error f => if f.isContent then .note (unusableNote name id f) (v.create name none) else .fail f

theorem resolve_eq (v : Vault) (incoming : Option String) (name : String) :
    v.resolve incoming name =
      match incoming.filter (· ≠ "") with
      | none => v.create name none
      | some id => (v.load name id).attempt.bind (v.settle name id) := by
  rw [resolve]
  cases incoming.filter (· ≠ "") with
  | none => rfl
  | some id => rfl

/-- What the search of a resolve comes to, if an identifier came in. -/
def found? (v : Vault) (answers : Answers σ) (incoming : Option String) (name : String) (w : World σ) :
    Option (Except Failure Session) :=
  (incoming.filter (· ≠ "")).map fun id => ((v.load name id).run answers w).1

/-- There was no search, or its failure says that there is no session that can be used. -/
def Unusable : Option (Except Failure Session) → Prop
  | none => True
  | some (.ok _) => False
  | some (.error f) => f.isContent = true

/-- A resolve is a search, and what is done with its outcome is done where the search has ended. -/
theorem run_resolve {incoming : Option String} {id : String} (hid : incoming.filter (· ≠ "") = some id) (name : String)
    (w : World σ) :
    (v.resolve incoming name).run answers w =
      (v.settle name id ((v.load name id).run answers w).1).run answers ((v.load name id).run answers w).2 := by
  rw [resolve_eq, hid]
  dsimp only
  rw [run_bind, run_attempt _ (free_load v name id)]
  rfl

/-- A resolve finds a session, or makes a new one where none can be used, or fails as its search did. -/
theorem resolve_cases (v : Vault) (answers : Answers σ) (incoming : Option String) (name : String) (w : World σ) :
    (∃ s, v.found? answers incoming name w = some (.ok s) ∧ ((v.resolve incoming name).run answers w).1 = .ok s) ∨
      (Unusable (v.found? answers incoming name w) ∧
        ((v.resolve incoming name).run answers w).1 = ((v.create name none).run answers w).1) ∨
      ∃ f, v.found? answers incoming name w = some (.error f) ∧ f.isContent = false ∧
        ((v.resolve incoming name).run answers w).1 = .error f := by
  rw [found?]
  cases hid : incoming.filter (· ≠ "") with
  | none =>
    refine Or.inr (Or.inl ⟨trivial, ?_⟩)
    rw [resolve_eq, hid]
  | some id =>
    obtain ⟨store, hworld, -⟩ := run_load v answers name id w
    rw [run_resolve hid, hworld, Option.map_some]
    cases hload : ((v.load name id).run answers w).1 with
    | ok s => exact Or.inl ⟨s, rfl, rfl⟩
    | error f =>
      rw [settle]
      cases hcontent : f.isContent with
      | true =>
        -- The search has left the clock and the entropy, which is all that a new session is made of.
        refine Or.inr (Or.inl ⟨hcontent, ?_⟩)
        rw [if_pos rfl, run, run_create, run_create]
      | false => exact Or.inr (Or.inr ⟨f, rfl, hcontent, rfl⟩)

variable {incoming : Option String} {name : String} {w : World σ}

theorem resolve_eq_error_iff {f : Failure} :
    ((v.resolve incoming name).run answers w).1 = .error f ↔
      v.found? answers incoming name w = some (.error f) ∧ f.isContent = false := by
  rcases resolve_cases v answers incoming name w with ⟨s, hfound, hout⟩ | ⟨hunusable, hout⟩ | ⟨f', hfound, hf', hout⟩
  · rw [hout, hfound]
    simp
  · rw [hout, run_create]
    constructor
    · intro h
      cases h
    · rintro ⟨hfound, hf⟩
      rw [hfound] at hunusable
      exact absurd (hf.symm.trans hunusable) Bool.false_ne_true
  · rw [hout, hfound]
    constructor
    · intro h
      cases h
      exact ⟨rfl, hf'⟩
    · rintro ⟨h, -⟩
      cases h
      rfl

theorem resolve_eq_ok_iff {s : Session} :
    ((v.resolve incoming name).run answers w).1 = .ok s ↔
      v.found? answers incoming name w = some (.ok s) ∨
        Unusable (v.found? answers incoming name w) ∧ ((v.create name none).run answers w).1 = .ok s := by
  rcases resolve_cases v answers incoming name w with ⟨s', hfound, hout⟩ | ⟨hunusable, hout⟩ | ⟨f, hfound, hf, hout⟩
  · rw [hout, hfound]
    simp [Unusable]
  · rw [hout]
    constructor
    · intro h
      exact Or.inr ⟨hunusable, h⟩
    · rintro (hfound | ⟨-, h⟩)
      · rw [hfound] at hunusable
        exact hunusable.elim
      · exact h
  · rw [hout, hfound]
    simp [Unusable, hf]

/-- What the search of a resolve finds belongs under the identifier that came in. -/
theorem found_of_found? {s : Session} (hfound : v.found? answers incoming name w = some (.ok s)) :
    incoming = some s.id ∧ Found name s.id w.clock s := by
  obtain ⟨id, hid, hload⟩ := Option.map_eq_some_iff.mp hfound
  obtain ⟨hincoming, -⟩ := Option.filter_eq_some_iff.mp hid
  obtain ⟨-, -, hbelongs⟩ := run_load v answers name id w
  have hfits := hbelongs s hload
  rw [hfits.id]
  exact ⟨hincoming, hfits⟩

/-- A new session comes from the entropy and the clock, whatever came in and whatever the store has answered. -/
theorem eq_start_of_isNew {s : Session} (hs : ((v.resolve incoming name).run answers w).1 = .ok s)
    (hnew : s.isNew = true) :
    s = Session.start (Identifier.ofOctets (w.entropy.draw Identifier.entropySize).1) name (v.policy.effectiveTtl none)
      w.clock := by
  rcases resolve_eq_ok_iff.mp hs with hfound | ⟨-, hmade⟩
  · obtain ⟨-, hfits⟩ := found_of_found? hfound
    have hold := hfits.isNew
    rw [hnew] at hold
    cases hold
  · rw [run_create] at hmade
    exact (Except.ok.inj hmade).symm

/-! ### Failures of the store -/

variable {id : String} {f : Failure}

theorem run_load_of_valid (hvalid : Identifier.isValid id = true) :
    (v.load name id).run answers w =
      (v.receive name id (answers w.store w.clock (.get (v.key name id))).1).run answers
        { w with store := (answers w.store w.clock (.get (v.key name id))).2 } := by
  rw [load_eq, hvalid, Bool.not_true, if_neg Bool.false_ne_true, run]

/-- An identifier that is not empty is looked for. -/
theorem incoming_of_ne (h : id ≠ "") : (some id).filter (fun id => decide (id ≠ "")) = some id :=
  Option.filter_some_pos (decide_eq_true h)

theorem found?_of_valid (hvalid : Identifier.isValid id = true) :
    v.found? answers (some id) name w = some ((v.load name id).run answers w).1 := by
  have hne : id ≠ "" := by
    rintro rfl
    cases hvalid
  rw [found?, incoming_of_ne hne, Option.map_some]

/-- The store fails a search: with what it is asked for first, or with the clean-up of a record that belongs to the
search and is past its expiry. -/
inductive Troubled (v : Vault) (answers : Answers σ) (name id : String) (w : World σ) (f : Failure) : Prop
  | get (hget : (answers w.store w.clock (.get (v.key name id))).1 = .error f)
  | cleanup {text : String} {r : Record} {store : σ}
      (hget : answers w.store w.clock (.get (v.key name id)) = (.ok (some text), store))
      (hread : v.envelope.read Record.decoder text (associated name) = .ok r)
      (hbelongs : r.id = id ∧ r.name = name) (hpast : ¬w.clock.before r.expiresAt = true)
      (hdelete : (answers store w.clock (.delete (v.key name id))).1 = .error f)

theorem Troubled.run_load (h : v.Troubled answers name id w f) (hvalid : Identifier.isValid id = true) :
    ((v.load name id).run answers w).1 = .error f := by
  rw [run_load_of_valid hvalid]
  cases h with
  | get hget =>
    rw [hget]
    rfl
  | cleanup hget hread hbelongs hpast hdelete =>
    have hfits : ¬(_ ≠ id ∨ _ ≠ name) := not_or.mpr ⟨not_not.mpr hbelongs.1, not_not.mpr hbelongs.2⟩
    rw [hget, receive, ofExcept_ok]
    dsimp only
    rw [hread, ofExcept_ok, if_neg hfits, check, run, if_neg hpast, run, Vault.cleanup, run, hdelete]
    rfl

/-- What the store fails a search with is what the search comes to. -/
theorem Troubled.found? (h : v.Troubled answers name id w f) (hvalid : Identifier.isValid id = true) :
    v.found? answers (some id) name w = some (.error f) := by
  rw [found?_of_valid hvalid, h.run_load hvalid]

/-- All other failures of a search say that there is no session that can be used. -/
theorem troubled_of_run_load (hvalid : Identifier.isValid id = true) (hf : f.isContent = false)
    (h : ((v.load name id).run answers w).1 = .error f) : v.Troubled answers name id w f := by
  rw [run_load_of_valid hvalid] at h
  -- Along the search: the store fails the first request, or fails the clean-up, or the failure is one of the content.
  cases hget : answers w.store w.clock (.get (v.key name id)) with
  | mk reply store =>
    rw [hget] at h
    cases reply with
    | error f' =>
      cases h
      exact .get (congrArg Prod.fst hget)
    | ok text =>
      cases text with
      | none =>
        cases h
        cases hf
      | some text =>
        rw [receive, ofExcept_ok] at h
        dsimp only at h
        cases hread : v.envelope.read Record.decoder text (associated name) with
        | error f' =>
          rw [hread] at h
          cases h
          rw [Envelope.isContent_of_read hread] at hf
          cases hf
        | ok r =>
          rw [hread, ofExcept_ok] at h
          split at h
          · cases h
            cases hf
          · rename_i hfits
            rw [check, run] at h
            split at h
            · cases h
            · rename_i hpast
              rw [run, cleanup, run] at h
              obtain ⟨hid, hname⟩ := not_or.mp hfits
              cases hdelete : (answers store w.clock (.delete (v.key name id))).1 with
              | error f' =>
                rw [hdelete] at h
                cases h
                exact .cleanup hget hread ⟨not_not.mp hid, not_not.mp hname⟩ hpast hdelete
              | ok x =>
                rw [hdelete] at h
                cases h
                cases hf

/-- A resolve fails exactly where the store fails the search for a valid identifier, and with the same failure. -/
theorem resolve_eq_error_iff_troubled :
    ((v.resolve incoming name).run answers w).1 = .error f ↔
      f.isContent = false ∧
        ∃ id, incoming = some id ∧ Identifier.isValid id = true ∧ v.Troubled answers name id w f := by
  rw [resolve_eq_error_iff]
  constructor
  · rintro ⟨hfound, hf⟩
    obtain ⟨id, hid, hload⟩ := Option.map_eq_some_iff.mp hfound
    obtain ⟨hincoming, -⟩ := Option.filter_eq_some_iff.mp hid
    cases hvalid : Identifier.isValid id with
    | false =>
      rw [run_load_of_not_valid hvalid] at hload
      cases hload
      cases hf
    | true => exact ⟨hf, id, hincoming, hvalid, troubled_of_run_load hvalid hf hload⟩
  · rintro ⟨hf, id, rfl, hvalid, htroubled⟩
    exact ⟨htroubled.found? hvalid, hf⟩

/-! ### Requests -/

/-- A request of a search for a valid identifier that came in. -/
def Asked (v : Vault) (incoming : Option String) (name : String) (r : Request) : Prop :=
  ∃ id, incoming = some id ∧ Identifier.isValid id = true ∧ v.Sought name id r

theorem free_resolve (v : Vault) (incoming : Option String) (name : String) :
    (v.resolve incoming name).Free (v.Asked incoming name) := by
  have hcreate : (v.create name none).Free (v.Asked incoming name) := fun octets now => trivial
  rw [resolve_eq]
  cases hid : incoming.filter (· ≠ "") with
  | none => exact hcreate
  | some id =>
    obtain ⟨hincoming, -⟩ := Option.filter_eq_some_iff.mp hid
    have hload : (v.load name id).Free (v.Asked incoming name) := by
      cases hvalid : Identifier.isValid id with
      | false =>
        rw [load_eq, hvalid]
        trivial
      | true => exact (free_load v name id).imp fun r hr => ⟨id, hincoming, hvalid, hr⟩
    refine hload.attempt.bind ?_
    intro found
    cases found with
    | ok s => trivial
    | error f =>
      rw [settle]
      split
      · exact hcreate
      · trivial

/-! ### The law of a resolve -/

/-- Over any store a resolve fails exactly as its search does, unless the failure says that there is no session that
can be used.  It gives the session that its search has found, which belongs under the name and the identifier that
came in and is not past its expiry, or else the session that is made in the same world, which is new and empty.  The
identifier of a new session depends on the entropy alone.  Nothing is asked of the store but what a search for a
valid identifier asks, so nothing at all if none came in. -/
theorem resolves_to_found_or_fresh (v : Vault) (answers : Answers σ) (incoming : Option String) (name : String)
    (w : World σ) :
    (∀ f, ((v.resolve incoming name).run answers w).1 = .error f ↔
        v.found? answers incoming name w = some (.error f) ∧ f.isContent = false) ∧
      (∀ s, ((v.resolve incoming name).run answers w).1 = .ok s ↔
        v.found? answers incoming name w = some (.ok s) ∨
          Unusable (v.found? answers incoming name w) ∧ ((v.create name none).run answers w).1 = .ok s) ∧
      (∀ s, v.found? answers incoming name w = some (.ok s) → incoming = some s.id ∧ Found name s.id w.clock s) ∧
      (∃ s, ((v.create name none).run answers w).1 = .ok s ∧ s.isNew = true ∧ s.values = [] ∧ s.name = name) ∧
      (∀ {τ : Type} (answers' : Answers τ) (incoming' : Option String) (name' : String) (w' : World τ) (s s' : Session),
        w'.entropy = w.entropy → ((v.resolve incoming name).run answers w).1 = .ok s → s.isNew = true →
          ((v.resolve incoming' name').run answers' w').1 = .ok s' → s'.isNew = true → s'.id = s.id) ∧
      (∀ r ∈ (v.resolve incoming name).requests answers w, v.Asked incoming name r) ∧
      ((∀ id, incoming = some id → Identifier.isValid id = false) →
        (v.resolve incoming name).requests answers w = []) := by
  have hasked : ∀ r ∈ (v.resolve incoming name).requests answers w, v.Asked incoming name r :=
    fun r hr => (free_resolve v incoming name).allowed_of_mem hr
  refine ⟨fun f => resolve_eq_error_iff, fun s => resolve_eq_ok_iff, fun s hfound => found_of_found? hfound,
    ⟨_, congrArg Prod.fst (run_create v name none w), rfl, rfl, rfl⟩, ?_, hasked, ?_⟩
  · intro τ answers' incoming' name' w' s s' hentropy hs hnew hs' hnew'
    rw [eq_start_of_isNew hs hnew, eq_start_of_isNew hs' hnew', hentropy]
    rfl
  · intro hinvalid
    rw [List.eq_nil_iff_forall_not_mem]
    intro r hr
    obtain ⟨id, hincoming, hvalid, -⟩ := hasked r hr
    rw [hinvalid id hincoming] at hvalid
    cases hvalid

end SessionVault.Vault
