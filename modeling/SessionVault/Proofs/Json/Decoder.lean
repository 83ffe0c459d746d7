import SessionVault.Json.Decoder
import SessionVault.Proofs.Json.Tree
import SessionVault.Proofs.Table

/-!
# Values decoded from their own text

`Json.again` is what the text of a value says: the value itself, but for numbers, which are what their text says,
and for objects, whose members are put into a table.  A decoder that may enter `depth` levels reads this value from
a text that is nested no deeper, and nothing from a deeper one (`toOption_json_written`).

* `Json.Settled` — a value whose numbers are read back and whose objects are tables;
* `Json.again_eq_iff` — these are the values that their own text says.
-/

namespace SessionVault

namespace Json

/-! ### What a text says -/

mutual

/-- The value that the text of a value says, if every number in it says one. -/
def again : Json → Option Json
  | .null => some .null
  | .bool b => some (.bool b)
  | .number n => n.again.map .number
  | .string s => some (.string s)
  | .array items => (againItems items).map .array
  | .object members => (againMembers members).map fun ms => .object (Table.ofList ms)

def againItems : List Json → Option (List Json)
  | [] => some []
  | v :: vs => (again v).bind fun w => (againItems vs).map (w :: ·)

def againMembers : List (String × Json) → Option (List (String × Json))
  | [] => some []
  | (k, v) :: ms => (again v).bind fun w => (againMembers ms).map ((k, w) :: ·)

end

mutual

/-- Every number of a value is read back from its text, and every object is a table. -/
def Settled : Json → Prop
  | .null | .bool _ | .string _ => True
  | .number n => n.again = some n
  | .array items => SettledItems items
  | .object members => SettledMembers members ∧ Table.Ascending members

def SettledItems : List Json → Prop
  | [] => True
  | v :: vs => Settled v ∧ SettledItems vs

def SettledMembers : List (String × Json) → Prop
  | [] => True
  | (_, v) :: ms => Settled v ∧ SettledMembers ms

end

/-- The texts of members say members under the same keys. -/
theorem keys_againMembers {ms ms' : List (String × Json)} (h : againMembers ms = some ms') :
    ms'.map Prod.fst = ms.map Prod.fst := by
  induction ms generalizing ms' with
  | nil =>
    cases h
    rfl
  | cons m ms ih =>
    obtain ⟨k, v⟩ := m
    rw [againMembers] at h
    obtain ⟨w, -, h⟩ := Option.bind_eq_some_iff.mp h
    obtain ⟨ws, hws, rfl⟩ := Option.map_eq_some_iff.mp h
    rw [List.map_cons, List.map_cons, ih hws]

theorem ascending_of_keys {ms ms' : List (String × Json)} (h : ms'.map Prod.fst = ms.map Prod.fst)
    (hms : Table.Ascending ms) : Table.Ascending ms' := by
  have hkeys : (ms.map Prod.fst).Pairwise (· < ·) := List.pairwise_map.mpr hms
  rw [← h] at hkeys
  exact List.pairwise_map.mp hkeys

mutual

/-- The values that are read back are the settled ones. -/
theorem again_eq_iff : ∀ v : Json, again v = some v ↔ Settled v
  | .null => by simp [again, Settled]
  | .bool b => by simp [again, Settled]
  | .string s => by simp [again, Settled]
  | .number n => by simp [again, Settled]
  | .array items => by
    rw [again, Settled, ← againItems_eq_iff items]
    simp
  | .object members => by
    rw [again, Settled, ← againMembers_eq_iff members]
    constructor
    · intro h
      obtain ⟨ms, hms, hobj⟩ := Option.map_eq_some_iff.mp h
      have hof : Table.ofList ms = members := Json.object.inj hobj
      have hasc : Table.Ascending members := hof ▸ Table.ascending_ofList ms
      have hsame : ms = members := by
        rw [← hof, Table.ofList_eq (ascending_of_keys (keys_againMembers hms) hasc)]
      exact ⟨hsame ▸ hms, hasc⟩
    · rintro ⟨h, hasc⟩
      rw [h, Option.map_some, Table.ofList_eq hasc]

theorem againItems_eq_iff : ∀ vs : List Json, againItems vs = some vs ↔ SettledItems vs
  | [] => by simp [againItems, SettledItems]
  | v :: vs => by
    rw [againItems, SettledItems, ← again_eq_iff v, ← againItems_eq_iff vs]
    cases again v with
    | none => simp
    | some w => cases againItems vs <;> simp

theorem againMembers_eq_iff : ∀ ms : List (String × Json), againMembers ms = some ms ↔ SettledMembers ms
  | [] => by simp [againMembers, SettledMembers]
  | (k, v) :: ms => by
    rw [againMembers, SettledMembers, ← again_eq_iff v, ← againMembers_eq_iff ms]
    cases again v with
    | none => simp
    | some w => cases againMembers ms <;> simp

end

end Json

namespace Decoder

open Json

variable {ε α β : Type}

/-! ### Results without their faults -/

theorem toOption_bind (x : Except ε α) (f : α → Except ε β) :
    (x >>= f).toOption = x.toOption.bind fun a => (f a).toOption := by
  cases x <;> rfl

theorem toOption_map (x : Except ε α) (f : α → β) : (x.map f).toOption = x.toOption.map f := by
  cases x <;> rfl

theorem eq_ok_iff {x : Except ε α} {a : α} : x = .ok a ↔ x.toOption = some a := by
  cases x <;> simp [Except.toOption]

/-! ### Values -/

theorem literal_written (s : Span) (text : String) : literal s (Literal.written text) = .ok text := by
  rw [literal, Literal.text?_written]

theorem key_written (s : Span) (text : String) : key ⟨s, Literal.written text⟩ = .ok text := literal_written s text

mutual

/-- A written value is read as its text says, if it is not nested too deeply. -/
theorem toOption_json_written : ∀ (v : Json) (depth : Nat) (rest : Bytes),
    (json depth (Tree.written v rest)).toOption = if v.depth ≤ depth then v.again else none
  | .null, depth, rest => by simp [Tree.written, json, again, Json.depth, Except.toOption]
  | .bool b, depth, rest => by simp [Tree.written, json, again, Json.depth, Except.toOption]
  | .number n, depth, rest => by
    rw [Tree.written]
    cases h : n.again <;> simp [json, again, Json.depth, Except.toOption, h]
  | .string s, depth, rest => by
    simp [Tree.written, json, literal_written, again, Json.depth, Except.toOption, Except.map]
  | .array items, 0, rest => by simp [Tree.written, json, Json.depth, Except.toOption]
  | .array items, depth + 1, rest => by
    rw [Tree.written, json, toOption_map, toOption_jsonItems_written items depth, Json.depth, again]
    by_cases h : itemsDepth items ≤ depth
    · rw [if_pos h, if_pos (Nat.succ_le_succ h)]
    · rw [if_neg h, if_neg fun h' => h (Nat.le_of_succ_le_succ h')]
      rfl
  | .object members, 0, rest => by simp [Tree.written, json, Json.depth, Except.toOption]
  | .object members, depth + 1, rest => by
    rw [Tree.written, json, toOption_map, toOption_jsonMembers_written members depth, Json.depth, again]
    by_cases h : membersDepth members ≤ depth
    · rw [if_pos h, if_pos (Nat.succ_le_succ h), Option.map_map]
      rfl
    · rw [if_neg h, if_neg fun h' => h (Nat.le_of_succ_le_succ h')]
      rfl

theorem toOption_jsonItems_written : ∀ (vs : List Json) (depth : Nat) (rest : Bytes),
    (jsonItems depth (Tree.writtenItems vs rest)).toOption = if itemsDepth vs ≤ depth then againItems vs else none
  | [], depth, rest => by simp [Tree.writtenItems, jsonItems, itemsDepth, againItems, Except.toOption]
  | v :: vs, depth, rest => by
    have hv := toOption_json_written v depth (Tree.behindItem vs rest)
    have hvs := toOption_jsonItems_written vs depth rest
    rw [Tree.writtenItems, jsonItems, toOption_bind, hv, itemsDepth, againItems]
    simp only [toOption_bind, hvs, Nat.max_le]
    by_cases hd : v.depth ≤ depth
    · by_cases hds : itemsDepth vs ≤ depth
      · simp only [hd, hds, and_self, if_true]
        cases v.again with
        | none => rfl
        | some w => cases againItems vs <;> rfl
      · simp only [hds, and_false, if_false]
        exact Option.bind_fun_none _
    · simp only [hd, false_and, if_false]
      rfl

theorem toOption_jsonMembers_written : ∀ (ms : List (String × Json)) (depth : Nat) (rest : Bytes) (acc : Table Json),
    (jsonMembers depth (Tree.writtenMembers ms rest) acc).toOption =
      if membersDepth ms ≤ depth then (againMembers ms).map (·.foldl (fun t e => t.insert e.1 e.2) acc) else none
  | [], depth, rest, acc => by simp [Tree.writtenMembers, jsonMembers, membersDepth, againMembers, Except.toOption]
  | (k, v) :: ms, depth, rest, acc => by
    have hv := toOption_json_written v depth (Tree.behindMember ms rest)
    have hms := fun w => toOption_jsonMembers_written ms depth rest (acc.insert k w)
    rw [Tree.writtenMembers, jsonMembers, key_written, membersDepth, againMembers]
    show ((json depth (Tree.written v (Tree.behindMember ms rest))) >>= _).toOption = _
    rw [toOption_bind, hv]
    simp only [hms, Nat.max_le]
    by_cases hd : v.depth ≤ depth
    · by_cases hds : membersDepth ms ≤ depth
      · simp only [hd, hds, and_self, if_true]
        cases v.again with
        | none => rfl
        | some w => cases againMembers ms <;> rfl
      · simp only [hds, and_false, if_false]
        exact Option.bind_fun_none _
    · simp only [hd, false_and, if_false]
      rfl

end

end Decoder

end SessionVault
