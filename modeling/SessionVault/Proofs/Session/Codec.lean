import SessionVault.Proofs.Json.Whole
import SessionVault.Proofs.Session.Record
import SessionVault.Session.Basic

/-!
# Records and their texts

What is read from a text is nested no deeper than the reader may go (`yields_json`), so a record that some text holds
has values of at most `valueDepth` levels (`yields_decode`): reading it again never fails for its depth.

The values of a record may be written in any order of their keys.  They are put into a table when they are read, so the
record that is read does not depend on the order (`decode_render_of_perm`).
-/

namespace SessionVault

namespace Json

/-! ### Depths -/

theorem membersDepth_le_iff {ms : List (String × Json)} {depth : Nat} :
    membersDepth ms ≤ depth ↔ ∀ m ∈ ms, m.2.depth ≤ depth := by
  induction ms with
  | nil => simp [membersDepth]
  | cons m ms ih =>
    obtain ⟨k, v⟩ := m
    simp [membersDepth, ih]

theorem membersDepth_insert_le {k : String} {v : Json} {t : Table Json} {depth : Nat} (hv : v.depth ≤ depth)
    (ht : membersDepth t ≤ depth) : membersDepth (t.insert k v) ≤ depth := by
  refine membersDepth_le_iff.mpr ?_
  intro m hm
  rcases Table.mem_insert hm with rfl | hm
  · exact hv
  · exact membersDepth_le_iff.mp ht m hm

end Json

namespace Decoder

open Json

variable {ε α β σ : Type}

/-! ### What is read -/

/-- Whatever comes out of a reading has a property; a reading that fails has every one. -/
def Yields (x : Except ε α) (P : α → Prop) : Prop := ∀ a, x = .ok a → P a

theorem yields_ok {P : α → Prop} {a : α} (h : P a) : Yields (.ok a : Except ε α) P := by
  intro b hb
  cases hb
  exact h

theorem yields_error {P : α → Prop} {e : ε} : Yields (.error e : Except ε α) P := by
  intro a ha
  cases ha

theorem yields_true (x : Except ε α) : Yields x fun _ => True := fun _ _ => trivial

theorem yields_bind {x : Except ε α} {f : α → Except ε β} {Q : α → Prop} {P : β → Prop} (hx : Yields x Q)
    (hf : ∀ a, Q a → Yields (f a) P) : Yields (x >>= f) P := by
  intro b hb
  cases h : x with
  | error e =>
    rw [h] at hb
    cases hb
  | ok a =>
    rw [h] at hb
    exact hf a (hx a h) b hb

theorem yields_map {x : Except ε α} {f : α → β} {Q : α → Prop} {P : β → Prop} (hx : Yields x Q)
    (hf : ∀ a, Q a → P (f a)) : Yields (x.map f) P := by
  cases x with
  | error e => exact yields_error
  | ok a => exact yields_ok (hf a (hx a rfl))

theorem yields_mapM {f : α → Except ε β} {P : β → Prop} (hf : ∀ a, Yields (f a) P) (as : List α) :
    Yields (as.mapM f) fun bs => ∀ b ∈ bs, P b := by
  induction as with
  | nil => exact yields_ok fun b hb => absurd hb List.not_mem_nil
  | cons a as ih =>
    rw [List.mapM_cons]
    refine yields_bind (hf a) fun b hb => yields_bind ih fun bs hbs => yields_ok ?_
    exact List.forall_mem_cons.mpr ⟨hb, hbs⟩

/-- Nothing is read from a node of the wrong kind. -/
theorem yields_mismatch {P : α → Prop} (t : Tree) (expected : String) : Yields (mismatch t expected) P := by
  rw [mismatch.eq_def]
  split
  · exact yields_error
  · split
    · exact yields_error
    · exact yields_error
  · exact yields_error

/-! ### Values are nested no deeper than their reader may go -/

mutual

theorem yields_json : ∀ (t : Tree) (depth : Nat), Yields (json depth t) fun v => v.depth ≤ depth
  | .null _, depth => yields_ok (Nat.zero_le depth)
  | .bool _ _, depth => yields_ok (Nat.zero_le depth)
  | .number _ (some _), depth => yields_ok (Nat.zero_le depth)
  | .number _ none, _ => yields_error
  | .string _ _, depth => yields_map (yields_true _) fun _ _ => Nat.zero_le depth
  | .array _ _, 0 => yields_error
  | .array _ items, depth + 1 => yields_map (yields_jsonItems items depth) fun _ h => Nat.succ_le_succ h
  | .object _ _, 0 => yields_error
  | .object _ ms, depth + 1 =>
    yields_map (yields_jsonMembers ms depth [] (Nat.zero_le depth)) fun _ h => Nat.succ_le_succ h

theorem yields_jsonItems : ∀ (ts : List Tree) (depth : Nat),
    Yields (jsonItems depth ts) fun vs => itemsDepth vs ≤ depth
  | [], depth => yields_ok (Nat.zero_le depth)
  | t :: ts, depth =>
    yields_bind (yields_json t depth) fun _ hv =>
      yields_bind (yields_jsonItems ts depth) fun _ hvs => yields_ok (Nat.max_le.mpr ⟨hv, hvs⟩)

/-- Members are put into a table one after the other, so the table that is there already counts. -/
theorem yields_jsonMembers : ∀ (ms : List (Key × Tree)) (depth : Nat) (acc : Table Json), membersDepth acc ≤ depth →
    Yields (jsonMembers depth ms acc) fun table => membersDepth table ≤ depth
  | [], _, _, hacc => yields_ok hacc
  | (k, t) :: ms, depth, acc, hacc =>
    yields_bind (yields_true (key k)) fun name _ => yields_bind (yields_json t depth) fun v hv =>
      yields_jsonMembers ms depth (acc.insert name v) (membersDepth_insert_le hv hacc)

end

/-- A table has values of one level less than its reader may enter. -/
theorem yields_table (depth : Nat) (t : Tree) :
    Yields (Decoder.table Decoder.json (depth + 1) t) fun values => membersDepth values ≤ depth := by
  have hmembers : Yields (Decoder.members key Decoder.json (depth + 1) t) fun ms => ∀ m ∈ ms, m.2.depth ≤ depth := by
    cases t with
    | object s ms =>
      refine yields_mapM ?_ ms
      rintro ⟨k, t⟩
      exact yields_bind (yields_true (key k)) fun name _ => yields_bind (yields_json t depth) fun v hv => yields_ok hv
    | _ => simpa only [Decoder.members] using yields_mismatch _ _
  refine yields_map hmembers ?_
  intro ms hms
  exact membersDepth_le_iff.mpr fun m hm => hms m (Table.mem_ofList hm)

/-! ### What every field keeps -/

section Fields

variable {P : σ → Prop} {depth : Nat} {fields : List (Field σ)}

/-- What every field keeps is kept by the members of an object. -/
theorem yields_readMembers
    (hkeep : ∀ field ∈ fields, ∀ t draft, P draft → Yields (field.read depth t draft) P) (ms : List (Key × Tree))
    {draft : σ} (hP : P draft) : Yields (readMembers fields depth ms draft) P := by
  induction ms generalizing draft with
  | nil => exact yields_ok hP
  | cons m ms ih =>
    obtain ⟨k, t⟩ := m
    rw [readMembers]
    refine yields_bind (yields_true (key k)) fun name _ => ?_
    split
    · exact ih hP
    · rename_i field hfind
      split
      · exact yields_error
      · have hread := hkeep field (List.mem_of_find?_eq_some hfind) t draft hP
        exact yields_bind hread fun next hnext => ih hnext

/-- What every field keeps is kept by the items of an array. -/
theorem yields_readItems
    (hkeep : ∀ field ∈ fields, ∀ t draft, P draft → Yields (field.read depth t draft) P) (expected : String)
    (stop : Bytes) (ts : List Tree) (index : Nat) {draft : σ} (hP : P draft) :
    Yields (readItems expected stop depth fields ts index draft) P := by
  induction fields generalizing ts index draft with
  | nil =>
    cases ts with
    | nil => exact yields_ok hP
    | cons t ts => exact yields_error
  | cons field fields ih =>
    obtain ⟨hfield, hfields⟩ := List.forall_mem_cons.mp hkeep
    cases ts with
    | nil =>
      rw [readItems]
      split
      · exact ih hfields [] (index + 1) hP
      · exact yields_error
    | cons t ts =>
      exact yields_bind (hfield t draft hP) fun next hnext => ih hfields ts (index + 1) hnext

/-- A structure is finished from a draft that has what every field keeps. -/
theorem yields_record
    (hkeep : ∀ field ∈ fields, ∀ t draft, P draft → Yields (field.read depth t draft) P) {empty : σ} (hempty : P empty)
    {finish : σ → Except String α} {Q : α → Prop} (hfinish : ∀ draft, P draft → Yields (finish draft) Q)
    (name : String) (t : Tree) : Yields (Decoder.record name fields empty finish (depth + 1) t) Q := by
  cases t with
  | object s ms =>
    refine yields_bind (yields_readMembers hkeep ms hempty) fun draft hdraft => ?_
    cases hfin : finish draft with
    | ok a => exact yields_ok (hfinish draft hdraft a hfin)
    | error field => exact yields_error
  | array s items =>
    refine yields_bind (yields_readItems hkeep _ s.stop items 0 hempty) fun draft hdraft => ?_
    cases hfin : finish draft with
    | ok a => exact yields_ok (hfinish draft hdraft a hfin)
    | error field => exact yields_error
  | _ => simpa only [Decoder.record] using yields_mismatch _ _

end Fields

end Decoder

namespace Record

open Json Decoder

/-! ### Records that some text holds -/

/-- Every field but the values leaves the values of a draft alone. -/
theorem yields_fields : ∀ field ∈ fields, ∀ t (draft : Draft),
    (∀ values ∈ draft.values, membersDepth values ≤ valueDepth) →
      Yields (field.read (valueDepth + 1) t draft) fun draft =>
        ∀ values ∈ draft.values, membersDepth values ≤ valueDepth := by
  have hvalues : ∀ t (draft : Draft), Yields
      ((Decoder.table Decoder.json (valueDepth + 1) t).map fun v => { draft with values := some v })
      fun draft => ∀ values ∈ draft.values, membersDepth values ≤ valueDepth :=
    fun t draft => yields_map (yields_table valueDepth t) fun values h => by
      rintro _ ⟨⟩
      exact h
  intro field hfield t draft hdraft
  simp only [fields, List.mem_cons, List.not_mem_nil, or_false] at hfield
  rcases hfield with rfl | rfl | rfl | rfl | rfl | rfl
  · exact yields_map (yields_true _) fun _ _ => hdraft
  · exact yields_map (yields_true _) fun _ _ => hdraft
  · exact hvalues t draft
  · exact yields_map (yields_true _) fun _ _ => hdraft
  · exact yields_map (yields_true _) fun _ _ => hdraft
  · exact yields_map (yields_true _) fun _ _ => hdraft

/-- A record has the values of its draft, or none. -/
theorem yields_ofDraft {draft : Draft} (h : ∀ values ∈ draft.values, membersDepth values ≤ valueDepth) :
    Yields (ofDraft draft) fun r => membersDepth r.values ≤ valueDepth := by
  have hvalues : membersDepth (draft.values.getD []) ≤ valueDepth := by
    cases hdraft : draft.values with
    | none => exact Nat.zero_le _
    | some values => exact h values hdraft
  rw [ofDraft]
  refine yields_bind (yields_true _) fun id _ => yields_bind (yields_true _) fun name _ => ?_
  refine yields_bind (yields_true _) fun createdAt _ => yields_bind (yields_true _) fun updatedAt _ => ?_
  exact yields_bind (yields_true _) fun expiresAt _ => yields_ok hvalues

/-- The values of a record that a text holds are nested no deeper than a reader may go. -/
theorem yields_decode (text : Bytes) : Yields (decode decoder text) fun r => membersDepth r.values ≤ valueDepth := by
  rw [decode]
  split
  · rename_i t ht
    refine yields_record yields_fields ?_ (fun draft hdraft => yields_ofDraft hdraft) "SessionRecord" t
    rintro values ⟨⟩
  · exact yields_error

/-! ### Records and the order of their values -/

/-- A settled record is read back from its text, whichever way its values are ordered there. -/
theorem decode_render_of_perm {r : Record} (h : r.Settled) {values : List (String × Json)}
    (hperm : values.Perm r.values) : decode decoder (render { r with values := values }) = .ok r := by
  have hdepth : membersDepth values ≤ valueDepth :=
    membersDepth_le_iff.mpr fun m hm => membersDepth_le_iff.mp h.depth_le m (hperm.mem_iff.mp hm)
  have hsettled : SettledMembers values :=
    settledMembers_iff.mpr fun m hm => settledMembers_iff.mp h.values m (hperm.mem_iff.mp hm)
  have hagain : againMembers values = some values := (againMembers_eq_iff values).mpr hsettled
  rw [eq_ok_iff, toOption_decode_render, if_pos hdepth, hagain, Option.map_some,
    Table.ofList_of_perm h.ascending hperm]

theorem settled_of_whole {r : Record} (h : (Json.object r.values).Whole) (hdepth : membersDepth r.values ≤ valueDepth) :
    r.Settled :=
  ⟨hdepth, settledMembers_of_whole r.values h.1, h.2⟩

/-- A record whose numbers are integers is read back from its text if its values are nested no deeper than a text may
be, and all records that a text holds are of that kind.  A session made of a record holds it. -/
theorem decodes_as_written (r : Record) (h : (Json.object r.values).Whole) :
    (membersDepth r.values ≤ valueDepth →
      ∀ values, values.Perm r.values → decode decoder (render { r with values := values }) = .ok r) ∧
    (∀ text, decode decoder text = .ok r → membersDepth r.values ≤ valueDepth ∧
      ∀ values, values.Perm r.values → decode decoder (render { r with values := values }) = .ok r) ∧
    (Session.ofRecord r).record = r := by
  have hback : membersDepth r.values ≤ valueDepth →
      ∀ values, values.Perm r.values → decode decoder (render { r with values := values }) = .ok r :=
    fun hdepth values hperm => decode_render_of_perm (settled_of_whole h hdepth) hperm
  refine ⟨hback, ?_, rfl⟩
  intro text htext
  have hdepth := yields_decode text r htext
  exact ⟨hdepth, hback hdepth⟩

/-- A record from a second behind the first instant to the last one, updated in a leap second, with the greatest and the
least integer among its values. -/
def sample : Record where
  id := "\u0000"
  name := "sid\n"
  values := [("", .array [.int (-0x8000000000000000), .object [("\"", .null)]]), ("k", .int 0xffffffffffffffff)]
  createdAt := ⟨-8334601228799, 1, by decide, by decide, by decide, fun h => absurd h (by decide)⟩
  updatedAt := ⟨1483228799, 1250000000, by decide, by decide, by decide, fun _ => rfl⟩
  expiresAt := Instant.latest

theorem decodes_as_written_sample :
    (Json.object sample.values).Whole ∧ membersDepth sample.values ≤ valueDepth ∧
      decode decoder (render { sample with values := sample.values.reverse }) = .ok sample := by
  have hwhole : (Json.object sample.values).Whole := by
    refine ⟨⟨⟨rfl, ⟨⟨trivial, trivial⟩, List.pairwise_singleton _ _⟩, trivial⟩, rfl, trivial⟩, ?_⟩
    exact List.pairwise_pair.mpr (by decide)
  have hdepth : membersDepth sample.values ≤ valueDepth := by decide
  exact ⟨hwhole, hdepth, (decodes_as_written sample hwhole).1 hdepth _ (List.reverse_perm _)⟩

end Record

end SessionVault
