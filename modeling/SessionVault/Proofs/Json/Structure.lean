import SessionVault.Proofs.Json.Decoder

/-!
# Structures read from their members

A structure is read from the text of an object, or from the object itself, and its members may stand in any order.  What
the decoders of its fields see is a tree that `Spells` a scalar: a node of that scalar, in whatever place.

* `Tree.Spells`, `Tree.SpellsAll` — a node spells a scalar, and nodes under keys spell members;
* `Tree.spellsAll_written`, `Tree.spellsAll_ofMembers` — what the trees of texts and of values say;
* `Decoder.string_of_spells`, `Decoder.unsigned_of_spells`, … — the decoders read what is spelt;
* `Decoder.readMembers_field`, `Decoder.readMembers_known` — a member is read as its field, and members are in any order;
* `Decoder.record_object` — a structure is finished from what its members leave.
-/

namespace SessionVault

open Json

namespace Tree

/-! ### What nodes spell -/

/-- A node spells a scalar. -/
inductive Spells : Tree → Json → Prop where
  | null (s : Span) : Spells (.null s) .null
  | bool (s : Span) (b : Bool) : Spells (.bool s b) (.bool b)
  | number (s : Span) (n : Number) : Spells (.number s (some n)) (.number n)
  | string (s : Span) {pieces : List Piece} {text : String} (h : Literal.text? pieces = some text) :
    Spells (.string s pieces) (.string text)

/-- Nodes under keys spell members. -/
def SpellsAll (ts : List (Key × Tree)) (ms : List (String × Json)) : Prop :=
  List.Forall₂ (fun t m => Decoder.key t.1 = .ok m.1 ∧ t.2.Spells m.2) ts ms

/-- A scalar whose number is read back. -/
def Scalar (v : Json) : Prop := v.Settled ∧ v.depth = 0

theorem spells_written {v : Json} (h : Scalar v) (rest : Bytes) : Spells (written v rest) v := by
  obtain ⟨hsettled, hdepth⟩ := h
  cases v with
  | null => exact .null _
  | bool b => exact .bool _ b
  | number n =>
    have hagain : n.again = some n := hsettled
    rw [written, hagain]
    exact .number _ n
  | string s => exact .string _ (Literal.text?_written s)
  | array items => cases hdepth
  | object members => cases hdepth

theorem spells_ofJson {v : Json} (h : Scalar v) : Spells (ofJson v) v := by
  cases v with
  | null => exact .null _
  | bool b => exact .bool _ b
  | number n => exact .number _ n
  | string s => exact .string _ (Literal.text?_ofText s)
  | array items => cases h.2
  | object members => cases h.2

theorem spellsAll_written {ms : List (String × Json)} (h : ∀ m ∈ ms, Scalar m.2) (rest : Bytes) :
    SpellsAll (writtenMembers ms rest) ms := by
  induction ms with
  | nil => exact .nil
  | cons m ms ih =>
    obtain ⟨hm, hms⟩ := List.forall_mem_cons.mp h
    exact .cons ⟨Decoder.key_written _ m.1, spells_written hm _⟩ (ih hms)

theorem spellsAll_ofMembers {ms : List (String × Json)} (h : ∀ m ∈ ms, Scalar m.2) : SpellsAll (ofMembers ms) ms := by
  induction ms with
  | nil => exact .nil
  | cons m ms ih =>
    obtain ⟨hm, hms⟩ := List.forall_mem_cons.mp h
    have hkey : Decoder.key ⟨nowhere, Literal.ofText m.1⟩ = .ok m.1 := by
      rw [Decoder.key, Decoder.literal, Literal.text?_ofText]
    exact .cons ⟨hkey, spells_ofJson hm⟩ (ih hms)

/-! ### Scalars -/

theorem scalar_string (s : String) : Scalar (.string s) := ⟨trivial, rfl⟩

theorem scalar_bool (b : Bool) : Scalar (.bool b) := ⟨trivial, rfl⟩

/-- A number of at most 64 bits is read back. -/
theorem scalar_nat {n : Nat} (h : n < 0x10000000000000000) : Scalar (.nat n) := by
  refine ⟨Number.again_int ?_, rfl⟩
  simp only [Payload.fits, Bool.and_eq_true, decide_eq_true_eq]
  omega

theorem scalar_optional {α : Type} {f : α → Json} {a : Option α} (h : ∀ x ∈ a, Scalar (f x)) :
    Scalar (Json.optional f a) := by
  cases a with
  | none => exact ⟨trivial, rfl⟩
  | some x => exact h x rfl

end Tree

namespace Decoder

variable {α σ : Type} {t : Tree}

/-! ### What decoders read -/

theorem string_of_spells {text : String} (h : t.Spells (.string text)) (depth : Nat) : string depth t = .ok text := by
  cases h with
  | string s h => rw [string, literal, h]

/-- A string that spells a value is read as that value. -/
theorem spelled_of_spells {f : String → Except String α} {text : String} {a : α} (hf : f text = .ok a)
    (h : t.Spells (.string text)) (expected : String) (depth : Nat) : spelled expected f depth t = .ok a := by
  cases h with
  | string s h =>
    rw [spelled, literal, h]
    simp only [bind, Except.bind, hf]

theorem bool_of_spells {b : Bool} (h : t.Spells (.bool b)) (depth : Nat) : bool depth t = .ok b := by
  cases h with
  | bool s b => rfl

theorem unsigned_of_spells {bits n : Nat} (hn : n < Nat.pow 2 bits) (h : t.Spells (.nat n)) (depth : Nat) :
    unsigned bits depth t = .ok n := by
  cases h with
  | number s m =>
    have hrange : (0 : Int) ≤ n ∧ (n : Int) ≤ (Nat.pow 2 bits - 1 : Nat) := by omega
    rw [unsigned, map, integer, if_pos hrange]
    rfl

/-- Null is read as nothing, and everything else as itself. -/
theorem optional_of_spells {d : Decoder α} {f : α → Json} {a : Option α} {depth : Nat} (hf : ∀ x, f x ≠ .null)
    (hd : ∀ x ∈ a, t.Spells (f x) → d depth t = .ok x) (h : t.Spells (Json.optional f a)) :
    optional d depth t = .ok a := by
  cases a with
  | none =>
    cases h with
    | null s => rfl
  | some x =>
    have hread := hd x rfl h
    cases t with
    | null s =>
      generalize hv : Json.optional f (some x) = v at h
      cases h
      exact absurd hv (hf x)
    | _ => exact congrArg (Except.map some) hread

/-! ### Members -/

/-- What a decoder reads is stored in the draft. -/
theorem read_of {field : Field σ} {d : Decoder α} {set : α → σ} {a : α} {draft next : σ} {depth : Nat}
    (hfield : field.read depth t draft = (d depth t).map set) (hread : d depth t = .ok a) (hset : set a = next) :
    field.read depth t draft = .ok next := by
  rw [hfield, hread]
  exact congrArg Except.ok hset

/-- A member under the name of a field that is still to come is read as that field. -/
theorem readMembers_field {fields : List (Field σ)} {field : Field σ} {k : Key} {name : String} {draft : σ}
    (hkey : key k = .ok name) (hfind : fields.find? (·.name = name) = some field) (hhas : field.has draft = false)
    (depth : Nat) (t : Tree) (ms : List (Key × Tree)) :
    readMembers fields depth ((k, t) :: ms) draft = field.read depth t draft >>= readMembers fields depth ms := by
  rw [readMembers, hkey]
  simp only [bind, Except.bind, hfind]
  rw [hhas, if_neg Bool.false_ne_true]

theorem readMembers_cons {fields : List (Field σ)} {field : Field σ} {k : Key} {name : String} {draft next : σ}
    {depth : Nat} (hkey : key k = .ok name) (hfind : fields.find? (·.name = name) = some field)
    (hhas : field.has draft = false) (hread : field.read depth t draft = .ok next) (ms : List (Key × Tree)) :
    readMembers fields depth ((k, t) :: ms) draft = readMembers fields depth ms next := by
  rw [readMembers_field hkey hfind hhas, hread]
  rfl

/-- Members with different names, each of which is read into whatever the members before it leave, are all read.  `known`
is the draft with the fields of some names, the last one first. -/
theorem readMembers_known {fields : List (Field σ)} {known : List String → σ} {depth : Nat} {ms : List (String × Json)}
    (step : ∀ m ∈ ms, ∀ names t, m.1 ∉ names → t.Spells m.2 → ∃ field, fields.find? (·.name = m.1) = some field ∧
      field.has (known names) = false ∧ field.read depth t (known names) = .ok (known (m.1 :: names)))
    (hnames : (ms.map Prod.fst).Nodup) {ts : List (Key × Tree)} (hspells : Tree.SpellsAll ts ms) {names : List String}
    (hnew : ∀ m ∈ ms, m.1 ∉ names) :
    ∃ all, readMembers fields depth ts (known names) = .ok (known all) ∧ ∀ m ∈ ms, m.1 ∈ all := by
  have hread : readMembers fields depth ts (known names) = .ok (known ((ms.map Prod.fst).reverse ++ names)) := by
    induction hspells generalizing names with
    | nil => rfl
    | @cons kt m ts ms hm hspells ih =>
      obtain ⟨hstep, hsteps⟩ := List.forall_mem_cons.mp step
      obtain ⟨hfirst, hnames⟩ := List.nodup_cons.mp hnames
      obtain ⟨hmnew, hnew⟩ := List.forall_mem_cons.mp hnew
      obtain ⟨field, hfind, hhas, hfield⟩ := hstep names kt.2 hmnew hm.2
      -- The members to come have other names than the one that is read now.
      have hlater : ∀ x ∈ ms, x.1 ∉ m.1 :: names := by
        intro x hx
        refine List.not_mem_cons_of_ne_of_not_mem ?_ (hnew x hx)
        intro heq
        exact hfirst (heq ▸ List.mem_map_of_mem hx)
      rw [readMembers_cons hm.1 hfind hhas hfield, ih hsteps hnames hlater]
      simp only [List.map_cons, List.reverse_cons, List.append_assoc, List.cons_append, List.nil_append]
  refine ⟨_, hread, fun m hm => ?_⟩
  exact List.mem_append_left _ (List.mem_reverse.mpr (List.mem_map_of_mem hm))

/-! ### Structures -/

/-- A structure is finished from what its members leave in the draft. -/
theorem record_object (name : String) (fields : List (Field σ)) (empty : σ) (finish : σ → Except String α) (depth : Nat)
    (s : Span) (ms : List (Key × Tree)) :
    record name fields empty finish (depth + 1) (.object s ms) =
      readMembers fields depth ms empty >>= fun draft =>
        match finish draft with
        | .ok a => .ok a
        | .error field => .error ⟨.missing field, s.stop⟩ := rfl

theorem record_of_readMembers {fields : List (Field σ)} {empty draft : σ} {finish : σ → Except String α} {a : α}
    {depth : Nat} {ms : List (Key × Tree)} (hread : readMembers fields depth ms empty = .ok draft)
    (hfinish : finish draft = .ok a) (name : String) (s : Span) :
    record name fields empty finish (depth + 1) (.object s ms) = .ok a := by
  rw [record_object, hread]
  simp only [bind, Except.bind, hfinish]

end Decoder

end SessionVault
