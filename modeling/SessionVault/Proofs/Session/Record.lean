import SessionVault.Envelope
import SessionVault.Proofs.Json.Structure
import SessionVault.Proofs.Time.Rfc3339
import SessionVault.Session.Record

/-!
# Records read back from their own text

`Record.reread` is what a record is read as once it has been written.  Its identifier, its name and its three
instants are always read back, and its values are what their texts say, if they are nested no deeper than
`valueDepth`: the record is two of the levels that a text may have.

* `toOption_decode_render` — the record that is read, if one is;
* `reread_eq_ok` — a record that is read has the same identifier, name and instants;
* `reread_eq_self_iff` — a record is read as itself exactly if its values are settled and not nested too deeply.
-/

namespace SessionVault.Record

open Json Decoder

/-! ### Fields -/

/-- How deeply the values of a record may be nested. -/
def valueDepth : Nat := maxDepth - 2

/-- A written member of a field that a decoder reads and a setter stores. -/
theorem readMembers_of {σ α : Type} {fields : List (Decoder.Field σ)} {name : String} {has : σ → Bool}
    {d : Decoder α} {set : σ → α → σ} {draft : σ} {a : α} {depth : Nat} {v : Json}
    (hfind : fields.find? (·.name = name) = some (.of name has d set)) (hhas : has draft = false)
    (hread : ∀ rest, d depth (Tree.written v rest) = .ok a) (ms : List (String × Json)) (rest : Bytes) :
    readMembers fields depth (Tree.writtenMembers ((name, v) :: ms) rest) draft =
      readMembers fields depth (Tree.writtenMembers ms rest) (set draft a) := by
  rw [Tree.writtenMembers, readMembers_cons (key_written _ name) hfind hhas (read_of rfl (hread _) rfl)]

theorem string_written (depth : Nat) (text : String) (rest : Bytes) :
    Decoder.string depth (Tree.written (.string text) rest) = .ok text :=
  string_of_spells (Tree.spells_written (Tree.scalar_string text) rest) depth

theorem instantDecoder_written (depth : Nat) (t : Instant) (rest : Bytes) :
    instantDecoder depth (Tree.written (instant t) rest) = .ok t := by
  refine spelled_of_spells ?_ (Tree.spells_written (Tree.scalar_string _) rest) _ depth
  rw [Rfc3339.read_rfc3339]
  rfl

/-- The members of the values are read as their texts say. -/
theorem toOption_members_written (ms : List (String × Json)) (depth : Nat) (rest : Bytes) :
    ((Tree.writtenMembers ms rest).mapM fun (k, t) => do return (← key k, ← json depth t)).toOption =
      if membersDepth ms ≤ depth then againMembers ms else none := by
  induction ms with
  | nil => simp [Tree.writtenMembers, membersDepth, againMembers, Except.toOption]; rfl
  | cons m ms ih =>
    obtain ⟨k, v⟩ := m
    have hv := toOption_json_written v depth (Tree.behindMember ms rest)
    rw [Tree.writtenMembers, List.mapM_cons, membersDepth, againMembers]
    simp only [key_written, toOption_bind, ih, hv, Nat.max_le]
    by_cases hd : v.depth ≤ depth
    · by_cases hds : membersDepth ms ≤ depth
      · simp only [hd, hds, and_self, if_true]
        cases v.again with
        | none => rfl
        | some w => cases againMembers ms <;> rfl
      · simp only [hds, and_false, if_false]
        exact Option.bind_fun_none _
    · simp only [hd, false_and, if_false]
      rfl

theorem toOption_values_written (values : Table Json) (depth : Nat) (rest : Bytes) :
    (Decoder.table Decoder.json (depth + 1) (Tree.written (.object values) rest)).toOption =
      if membersDepth values ≤ depth then (againMembers values).map Table.ofList else none := by
  rw [Tree.written, Decoder.table, Decoder.map, toOption_map]
  show (Option.map _ ((Tree.writtenMembers values (0x7d :: rest)).mapM fun (k, t) => do
    return (← key k, ← json depth t)).toOption) = _
  rw [toOption_members_written]
  split <;> rfl

/-! ### Records -/

/-- The fields of a written record are read into a draft, all but the values as they are. -/
theorem readMembers_toJson (r : Record) (depth : Nat) :
    ∃ rest, readMembers fields depth (Tree.writtenMembers [("id", .string r.id), ("name", .string r.name),
        ("values", .object r.values), ("created_at", instant r.createdAt), ("updated_at", instant r.updatedAt),
        ("expires_at", instant r.expiresAt)] [0x7d]) {} =
      (Decoder.table Decoder.json depth (Tree.written (.object r.values) rest)).map fun values =>
        ⟨some r.id, some r.name, some values, some r.createdAt, some r.updatedAt, some r.expiresAt⟩ := by
  have hinstant := fun t => instantDecoder_written depth t
  rw [readMembers_of rfl rfl (string_written depth r.id), readMembers_of rfl rfl (string_written depth r.name),
    Tree.writtenMembers, readMembers_field (key_written _ _) rfl rfl]
  refine ⟨Tree.behindMember [("created_at", instant r.createdAt), ("updated_at", instant r.updatedAt),
    ("expires_at", instant r.expiresAt)] [0x7d], ?_⟩
  show ((Decoder.table Decoder.json depth (Tree.written (.object r.values) _)).map _ >>= _) = _
  cases Decoder.table Decoder.json depth (Tree.written (.object r.values) _) with
  | error fault => rfl
  | ok values =>
    simp only [Except.map, bind, Except.bind]
    rw [readMembers_of rfl rfl (hinstant r.createdAt), readMembers_of rfl rfl (hinstant r.updatedAt),
      readMembers_of rfl rfl (hinstant r.expiresAt)]
    rfl

/-- The record that the text of a record says, if its values are not nested too deeply and every number in them says
one. -/
theorem toOption_decode_render (r : Record) :
    (decode decoder r.render).toOption =
      if membersDepth r.values ≤ valueDepth then
        (againMembers r.values).map fun values => { r with values := Table.ofList values }
      else none := by
  obtain ⟨rest, hmembers⟩ := readMembers_toJson r (valueDepth + 1)
  have hvalues := toOption_values_written r.values valueDepth rest
  have hdepth : maxDepth = valueDepth + 1 + 1 := rfl
  rw [decode, render, Tree.read?_render, toJson, Tree.written, hdepth, decoder]
  dsimp only
  rw [record_object, hmembers, toOption_bind, toOption_map, hvalues]
  split
  · cases againMembers r.values <;> rfl
  · rfl

/-! ### Reading a record again -/

/-- What a record is read as once it is written. -/
def reread (r : Record) : Except Failure Record :=
  (decode decoder r.render).mapError fun fault => .deserialization (fault.message r.render)

theorem toOption_reread (r : Record) : r.reread.toOption = (decode decoder r.render).toOption := by
  rw [reread]
  cases decode decoder r.render <;> rfl

/-- A record that is read back has the same identifier, name and instants. -/
theorem reread_eq_ok {r r' : Record} (h : r.reread = .ok r') : ∃ values, r' = { r with values := values } := by
  rw [eq_ok_iff, toOption_reread, toOption_decode_render] at h
  split at h
  · obtain ⟨values, -, hr⟩ := Option.map_eq_some_iff.mp h
    exact ⟨Table.ofList values, hr.symm⟩
  · cases h

/-- A record that is not read back does not decode. -/
theorem reread_eq_error {r : Record} {f : Failure} (h : r.reread = .error f) : ∃ text, f = .deserialization text := by
  rw [reread] at h
  cases hd : decode decoder r.render with
  | ok r' =>
    rw [hd] at h
    cases h
  | error fault =>
    rw [hd] at h
    exact ⟨_, (Except.error.inj h).symm⟩

/-- The records that are read as themselves. -/
structure Settled (r : Record) : Prop where
  /-- The values are nested no deeper than a text may be, with the two levels of the record. -/
  depth_le : membersDepth r.values ≤ valueDepth
  /-- Every number in the values is read back from its text, and every object is a table. -/
  values : SettledMembers r.values
  ascending : Table.Ascending r.values

/-- Settled records are read as themselves, and no others. -/
theorem reread_eq_self_iff (r : Record) : r.reread = .ok r ↔ r.Settled := by
  rw [eq_ok_iff, toOption_reread, toOption_decode_render]
  have hagain := again_eq_iff (.object r.values)
  rw [again, Json.Settled] at hagain
  constructor
  · intro h
    split at h
    · rename_i hd
      obtain ⟨values, hvalues, hr⟩ := Option.map_eq_some_iff.mp h
      have hof : Table.ofList values = r.values := congrArg Record.values hr
      have hset := hagain.mp (by rw [hvalues, Option.map_some, hof])
      exact ⟨hd, hset.1, hset.2⟩
    · cases h
  · rintro ⟨hd, hset, hasc⟩
    have hvalues := (againMembers_eq_iff r.values).mpr hset
    rw [if_pos hd, hvalues, Option.map_some, Table.ofList_eq hasc]

/-- A record whose values are nested too deeply is not read back, whatever they are. -/
theorem reread_of_deep {r : Record} (h : ¬membersDepth r.values ≤ valueDepth) :
    ∃ text, r.reread = .error (.deserialization text) := by
  cases hr : r.reread with
  | ok r' =>
    rw [eq_ok_iff, toOption_reread, toOption_decode_render, if_neg h] at hr
    cases hr
  | error f =>
    obtain ⟨text, rfl⟩ := reread_eq_error hr
    exact ⟨text, rfl⟩

theorem settled_of_nil {r : Record} (h : r.values = []) : r.Settled := by
  refine ⟨?_, ?_, ?_⟩
  · rw [h]
    exact Nat.zero_le _
  · rw [h]
    exact trivial
  · rw [h]
    exact Table.ascending_nil

theorem render_ne_nil (r : Record) : r.render ≠ [] := List.ne_nil_of_length_pos (Tree.length_render_pos r.toJson)

end SessionVault.Record
