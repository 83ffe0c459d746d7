import SessionVault.Proofs.Json.Numeral
import SessionVault.Proofs.Url.Address
import SessionVault.Proofs.Url.Percent
import SessionVault.Url.Reader

/-!
# Paths are read back

A path is read as segments: the segments that stay where they are or go one up are gone, and in those left no
character is hidden any more.  So a path that has been read is read back from its text.

* `IsSegment` — what a segment of a path is once it has been read;
* `isSegment_percentEncode` — a segment that is no dot is not made one by hiding characters;
* `areSegments_readSegments` — the segments that are read;
* `readSegments_intercalate`, `readPath_pathText` — segments are read back.
-/

namespace SessionVault.Url

open Bytes (ofString)

/-! ### Segments -/

structure IsSegment (cs : List Char) : Prop where
  shown : ∀ c ∈ cs, isShown inPath c = true
  noSlash : '/' ∉ cs
  notSingle : isSingleDot cs = false
  notDouble : isDoubleDot cs = false

theorem isSegment_nil : IsSegment [] where
  shown := fun _ hc => absurd hc List.not_mem_nil
  noSlash := List.not_mem_nil
  notSingle := by decide
  notDouble := by decide

/-- Whether in a text of lower case every percent sign hides a dot. -/
def hidesDotsOnly : List Char → Bool
  | [] => true
  | c :: rest => (c != '%' || rest.take 2 == ['2', 'e']) && hidesDotsOnly rest

theorem hidesDotsOnly_of_dots {cs : List Char} (h : isSingleDot cs = true ∨ isDoubleDot cs = true) :
    hidesDotsOnly (cs.map Char.toLower) = true := by
  simp only [isSingleDot, isDoubleDot, List.mem_cons, List.not_mem_nil, or_false, decide_eq_true_eq] at h
  rcases h with (h | h) | (h | h | h | h) <;> rw [h] <;> decide

/-- A path hides no dot, so nothing is hidden where only dots seem to be. -/
theorem not_inPath_of_hidesDotsOnly {bs : Bytes}
    (h : hidesDotsOnly ((bs.flatMap (octetText inPath)).map Char.toLower) = true) {b : UInt8} (hb : b ∈ bs) :
    inPath b = false := by
  have hdot : ∀ b : UInt8, inPath b = true →
      [(upperDigit (b.toNat / 16)).toLower, (upperDigit (b.toNat % 16)).toLower] ≠ ['2', 'e'] :=
    Bytes.forall_of_lt (by decide +kernel)
  induction bs with
  | nil => exact absurd hb List.not_mem_nil
  | cons a bs ih =>
    rw [List.flatMap_cons, List.map_append] at h
    cases ha : inPath a with
    | true =>
      rw [octetText, ha, if_pos rfl] at h
      have hpair := (Bool.and_eq_true_iff.1 h).1
      exact absurd (by simpa [percentOctet] using hpair) (hdot a ha)
    | false =>
      rw [octetText, ha, if_neg Bool.false_ne_true] at h
      rcases List.mem_cons.1 hb with rfl | hb
      · exact ha
      · exact ih (Bool.and_eq_true_iff.1 h).2 hb

theorem percentEncode_of_hidesDotsOnly {cs : List Char}
    (h : hidesDotsOnly ((percentEncode inPath cs).map Char.toLower) = true) : percentEncode inPath cs = cs := by
  rw [percentEncode_eq sound_inPath, Bytes.ofString_ofList] at h
  refine percentEncode_of_shown fun c hc => ?_
  have hmem {b : UInt8} (hb : b ∈ String.utf8EncodeChar c) : inPath b = false :=
    not_inPath_of_hidesDotsOnly h (List.mem_flatMap.2 ⟨c, hc, hb⟩)
  by_cases hlow : c.toNat < 0x80
  · have hone := Bytes.utf8EncodeChar_of_lt hlow
    rw [isShown, hmem (hone ▸ List.mem_singleton.2 rfl), decide_eq_true hlow]
    rfl
  · obtain ⟨b, hb⟩ := List.exists_mem_of_ne_nil _ (String.utf8EncodeChar_ne_nil (c := c))
    have hhidden := sound_inPath.beyond b (Bytes.le_of_mem_utf8EncodeChar (Nat.le_of_not_lt hlow) hb)
    exact absurd ((hmem hb).symm.trans hhidden) Bool.false_ne_true

/-- A segment that is no dot is not made one by hiding characters. -/
theorem isSegment_percentEncode {cs : List Char} (hslash : '/' ∉ cs) (hsingle : isSingleDot cs = false)
    (hdouble : isDoubleDot cs = false) : IsSegment (percentEncode inPath cs) where
  shown := fun _ hc => isShown_of_mem_percentEncode sound_inPath hc
  noSlash := fun hmem => by
    rcases mem_percentEncode hmem with hmem | hmem | ⟨n, hn, hmem⟩
    · exact hslash hmem
    · exact absurd hmem (by decide)
    · exact (by decide : ∀ n < 16, '/' ≠ upperDigit n) n hn hmem
  notSingle := Bool.eq_false_iff.2 fun h => by
    rw [percentEncode_of_hidesDotsOnly (hidesDotsOnly_of_dots (.inl h)), hsingle] at h
    cases h
  notDouble := Bool.eq_false_iff.2 fun h => by
    rw [percentEncode_of_hidesDotsOnly (hidesDotsOnly_of_dots (.inr h)), hdouble] at h
    cases h

/-- What holds of a decimal digit in a path. -/
theorem quiet_of_isDigit {c : Char} (h : Natural.isDigit c = true) :
    isShown inPath c = true ∧ '/' ≠ c ∧ c.toLower ≠ '.' ∧ c.toLower ≠ '%' := by
  have hlow : c.toNat < 128 := Nat.lt_of_le_of_lt (Numeral.toNat_of_isDigit h).2 (by decide)
  exact Bytes.forall_of_ascii (p := fun c => Natural.isDigit c = true → isShown inPath c = true ∧ '/' ≠ c ∧
    c.toLower ≠ '.' ∧ c.toLower ≠ '%') (by decide +kernel) hlow h

/-- Digits are a segment. -/
theorem isSegment_of_digits {cs : List Char} (h : ∀ c ∈ cs, Natural.isDigit c = true) : IsSegment cs := by
  have hdot {text : List Char} (htext : '.' ∈ text ∨ '%' ∈ text) : cs.map Char.toLower ≠ text := by
    rintro rfl
    rcases htext with hmem | hmem
    · obtain ⟨c, hc, heq⟩ := List.mem_map.1 hmem
      exact (quiet_of_isDigit (h c hc)).2.2.1 heq
    · obtain ⟨c, hc, heq⟩ := List.mem_map.1 hmem
      exact (quiet_of_isDigit (h c hc)).2.2.2 heq
  refine ⟨fun c hc => (quiet_of_isDigit (h c hc)).1, fun hc => (quiet_of_isDigit (h _ hc)).2.1 rfl,
    decide_eq_false ?_, decide_eq_false ?_⟩
  · simp only [List.mem_cons, List.not_mem_nil, or_false, not_or]
    exact ⟨hdot (by decide), hdot (by decide)⟩
  · simp only [List.mem_cons, List.not_mem_nil, or_false, not_or]
    exact ⟨hdot (by decide), hdot (by decide), hdot (by decide), hdot (by decide)⟩

/-! ### Segments that are read -/

def AreSegments (parts : List String) : Prop := ∀ part ∈ parts, IsSegment part.toList

theorem areSegments_cons {part : String} {parts : List String} :
    AreSegments (part :: parts) ↔ IsSegment part.toList ∧ AreSegments parts := List.forall_mem_cons

theorem areSegments_goUp {acc : List String} (h : AreSegments acc) : AreSegments (goUp acc) := by
  cases acc with
  | nil => exact h
  | cons part acc =>
    rw [goUp]
    split
    · exact h
    · exact (areSegments_cons.1 h).2

theorem areSegments_pushSegment {acc : List String} (h : AreSegments acc) {segment : List Char}
    (hslash : '/' ∉ segment) (last : Bool) : AreSegments (pushSegment false acc segment last) := by
  have hempty (acc : List String) (hacc : AreSegments acc) : AreSegments (if last then "" :: acc else acc) := by
    cases last
    · exact hacc
    · exact areSegments_cons.2 ⟨isSegment_nil, hacc⟩
  rw [pushSegment]
  cases hdouble : isDoubleDot segment with
  | true => exact hempty _ (areSegments_goUp h)
  | false =>
    cases hsingle : isSingleDot segment with
    | true => exact hempty acc h
    | false =>
      refine areSegments_cons.2 ⟨?_, h⟩
      rw [String.toList_ofList]
      exact isSegment_percentEncode hslash hsingle hdouble

theorem areSegments_pushSegments {segments : List (List Char)} (hslash : ∀ segment ∈ segments, '/' ∉ segment)
    {acc : List String} (h : AreSegments acc) : AreSegments (pushSegments false acc segments) := by
  induction segments generalizing acc with
  | nil => exact h
  | cons segment rest ih =>
    have hsegment (last : Bool) := areSegments_pushSegment h (hslash segment List.mem_cons_self) last
    cases rest with
    | nil => exact hsegment true
    | cons next rest =>
      rw [pushSegments]
      · exact ih (fun s hs => hslash s (List.mem_cons_of_mem segment hs)) (hsegment false)
      · exact List.cons_ne_nil next rest

/-- The segments that are read, where the scheme is not one for the web. -/
theorem areSegments_readSegments {scheme : String} (hweb : isSpecial scheme = false) (cs : List Char) :
    AreSegments (readSegments scheme cs) := by
  have hfile : (scheme == "file") = false := (Bool.or_eq_false_iff.1 hweb).1
  rw [readSegments, hfile, hweb]
  intro part hpart
  refine areSegments_pushSegments (fun segment hsegment hslash => ?_) (fun p hp => absurd hp List.not_mem_nil)
    part (List.mem_reverse.1 hpart)
  have hsep := (of_mem_cut hsegment hslash).2
  exact Bool.false_ne_true hsep.symm

/-- A path behind a host has segments. -/
theorem exists_readPath {scheme : String} (hweb : isSpecial scheme = false) (cs : List Char) :
    ∃ parts, readPath scheme cs = .segments parts ∧ AreSegments parts := by
  unfold readPath
  rw [hweb, if_neg Bool.false_ne_true]
  split
  · exact ⟨[], rfl, fun part hpart => absurd hpart List.not_mem_nil⟩
  · exact ⟨_, rfl, areSegments_readSegments hweb _⟩
  · exact ⟨_, rfl, areSegments_readSegments hweb _⟩

/-! ### Segments read back -/

theorem pushSegment_segment {acc : List String} {part : String} (h : IsSegment part.toList) (last : Bool) :
    pushSegment false acc part.toList last = part :: acc := by
  rw [pushSegment, h.notDouble, h.notSingle, percentEncode_of_shown h.shown, String.ofList_toList]
  rfl

theorem pushSegments_segments {parts acc : List String} (h : AreSegments parts) :
    pushSegments false acc (parts.map String.toList) = parts.reverse ++ acc := by
  induction parts generalizing acc with
  | nil => rfl
  | cons part parts ih =>
    obtain ⟨hpart, hparts⟩ := areSegments_cons.1 h
    rw [List.reverse_cons, List.append_assoc, List.singleton_append]
    cases parts with
    | nil => exact pushSegment_segment hpart true
    | cons next parts =>
      rw [List.map_cons, List.map_cons, pushSegments, pushSegment_segment hpart, ← List.map_cons, ih hparts]
      exact List.cons_ne_nil _ _

/-- Segments with slashes between them are read back. -/
theorem readSegments_intercalate {scheme : String} (hweb : isSpecial scheme = false) {parts : List String}
    (hne : parts ≠ []) (h : AreSegments parts) :
    readSegments scheme (['/'].intercalate (parts.map String.toList)) = parts := by
  have hfile : (scheme == "file") = false := (Bool.or_eq_false_iff.1 hweb).1
  have hcut : cut (fun c => c == '/' || (isSpecial scheme && c == '\\'))
      (['/'].intercalate (parts.map String.toList)) = parts.map String.toList := by
    refine cut_intercalate rfl (fun hnil => hne (List.map_eq_nil_iff.1 hnil)) fun segment hsegment c hc => ?_
    obtain ⟨part, hpart, rfl⟩ := List.mem_map.1 hsegment
    have hslash : c ≠ '/' := fun heq => (h part hpart).noSlash (heq ▸ hc)
    rw [hweb, Bool.false_and, Bool.or_false, beq_eq_false_iff_ne]
    exact hslash
  rw [readSegments, hfile, hcut, pushSegments_segments h, List.append_nil, List.reverse_reverse]

/-- The text of a path: a slash in front of it, and one between any two segments. -/
theorem toList_pathText (part : String) (parts : List String) :
    (pathText (.segments (part :: parts))).toList =
      '/' :: ['/'].intercalate ((part :: parts).map String.toList) := by
  rw [pathText, String.toList_join]
  induction parts generalizing part with
  | nil => simp [List.intercalate]
  | cons next parts ih =>
    show ("/" ++ part).toList ++ ((next :: parts).map ("/" ++ ·)).flatMap String.toList =
      '/' :: ['/'].intercalate (part.toList :: next.toList :: parts.map String.toList)
    rw [ih next, List.intercalate_cons_cons]
    simp

/-- A path behind a host is read back. -/
theorem readPath_pathText {scheme : String} (hweb : isSpecial scheme = false) {parts : List String}
    (h : AreSegments parts) : readPath scheme (pathText (.segments parts)).toList = .segments parts := by
  cases parts with
  | nil =>
    have hnil : (pathText (.segments [])).toList = [] := String.toList_empty
    rw [hnil, readPath, hweb]
    rfl
  | cons part parts =>
    rw [toList_pathText, readPath, hweb, if_neg Bool.false_ne_true]
    exact congrArg UrlPath.segments (readSegments_intercalate hweb (List.cons_ne_nil _ _) h)

/-! ### What may stand in a path -/

/-- What may stand in a segment. -/
theorem quiet_of_inPath {c : Char} (h : isShown inPath c = true) : endsPath c = false ∧ 0x20 < c.toNat :=
  forall_of_isShown (p := fun c => endsPath c = false ∧ 0x20 < c.toNat) (by decide +kernel) h

theorem quiet_of_mem_pathText {parts : List String} (h : AreSegments parts) {c : Char}
    (hc : c ∈ (pathText (.segments parts)).toList) : endsPath c = false ∧ 0x20 < c.toNat := by
  rw [pathText, String.toList_join] at hc
  obtain ⟨text, htext, hc⟩ := List.mem_flatMap.1 hc
  obtain ⟨part, hpart, rfl⟩ := List.mem_map.1 htext
  rw [String.toList_append, List.mem_append] at hc
  rcases hc with hc | hc
  · rw [List.mem_singleton.1 hc]
    decide
  · exact quiet_of_inPath ((h part hpart).shown c hc)

end SessionVault.Url
