import SessionVault.Json.Payload
import SessionVault.Proofs.Json.Decoder

/-!
# Values whose numbers are integers

A `Whole` value is read back from its own text, whatever its shape (`settled_of_whole`).  Tables of settled values stay
settled when a settled value is put in and when values are taken out.
-/

namespace SessionVault.Json

mutual

/-- Every number of a value is an integer of 64 bits, and every object is a table. -/
def Whole : Json → Prop
  | .null | .bool _ | .string _ => True
  | .number (.int n) => Payload.fits n = true
  | .number (.real _) => False
  | .array items => WholeItems items
  | .object members => WholeMembers members ∧ Table.Ascending members

def WholeItems : List Json → Prop
  | [] => True
  | v :: vs => Whole v ∧ WholeItems vs

def WholeMembers : List (String × Json) → Prop
  | [] => True
  | (_, v) :: ms => Whole v ∧ WholeMembers ms

end

mutual

/-- Integers are read back from their texts, so whole values are settled. -/
theorem settled_of_whole : ∀ v : Json, Whole v → Settled v
  | .null, _ => trivial
  | .bool _, _ => trivial
  | .string _, _ => trivial
  | .number (.int _), h => Number.again_int h
  | .number (.real _), h => h.elim
  | .array items, h => settledItems_of_whole items h
  | .object members, h => ⟨settledMembers_of_whole members h.1, h.2⟩

theorem settledItems_of_whole : ∀ vs : List Json, WholeItems vs → SettledItems vs
  | [], _ => trivial
  | v :: vs, h => ⟨settled_of_whole v h.1, settledItems_of_whole vs h.2⟩

theorem settledMembers_of_whole : ∀ ms : List (String × Json), WholeMembers ms → SettledMembers ms
  | [], _ => trivial
  | (_, v) :: ms, h => ⟨settled_of_whole v h.1, settledMembers_of_whole ms h.2⟩

end

/-! ### Tables of settled values -/

theorem settledMembers_iff {ms : List (String × Json)} : SettledMembers ms ↔ ∀ m ∈ ms, m.2.Settled := by
  induction ms with
  | nil => simp [SettledMembers]
  | cons m ms ih =>
    obtain ⟨k, v⟩ := m
    simp [SettledMembers, ih]

theorem settled_insert {k : String} {v : Json} {t : Table Json} (hv : v.Settled) (ht : (object t).Settled) :
    (object (t.insert k v)).Settled := by
  refine ⟨settledMembers_iff.mpr ?_, Table.ascending_insert k v ht.2⟩
  intro m hm
  rcases Table.mem_insert hm with rfl | hm
  · exact hv
  · exact settledMembers_iff.mp ht.1 m hm

theorem settled_erase {k : String} {t : Table Json} (ht : (object t).Settled) : (object (t.erase k)).Settled := by
  refine ⟨settledMembers_iff.mpr ?_, Table.ascending_erase k ht.2⟩
  intro m hm
  exact settledMembers_iff.mp ht.1 m (List.mem_of_mem_filter hm)

theorem settled_nil : (object []).Settled := ⟨trivial, Table.ascending_nil⟩

theorem settled_singleton (k : String) {v : Json} (hv : v.Settled) : (object [(k, v)]).Settled :=
  settled_insert hv settled_nil

end SessionVault.Json
