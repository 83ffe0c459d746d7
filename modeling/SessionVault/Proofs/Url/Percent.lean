import Mathlib.Data.List.Basic
import SessionVault.Proofs.Text.Octets
import SessionVault.Url.Basic

/-!
# What is behind the percent signs

A part of a URL is written octet by octet: an octet that the part hides becomes a percent sign and two digits, and
any other stays.  A percent sign itself stays too, and so it is not the octets of a text that are found behind
the percent signs of its hidden form, but what is behind the percent signs of the text.

* `Sound` — a set that can be hidden and shown again, as the sets of all parts are;
* `percentEncode_eq` — a hidden text, octet by octet;
* `Written` — a part as it is written, which hiding it again leaves as it is;
* `percentDecode_percentEncode` — hiding changes nothing of what is behind the percent signs;
* `percentDecode_eq_self_iff` — a text is what it shows if and only if it holds no percent sign in front of two
  hexadecimal digits (`hasEscape`).
-/

namespace SessionVault

namespace Url

open Bytes (ofString ofPlain hexValue?)

/-! ### Sets -/

/-- A set that hides everything beyond ASCII, and neither a percent sign nor a hexadecimal digit. -/
structure Sound (hidden : UInt8 → Bool) : Prop where
  beyond : ∀ b : UInt8, 0x80 ≤ b.toNat → hidden b = true
  mark : hidden 0x25 = false
  digit : ∀ b : UInt8, (hexValue? (Char.ofNat b.toNat)).isSome → hidden b = false

/-- Every set that hides what is hidden everywhere and no more than the set for users is sound. -/
theorem Sound.of_le {hidden : UInt8 → Bool} (hlow : ∀ b, isControl b = true → hidden b = true)
    (hhigh : ∀ b, hidden b = true → inUserinfo b = true) : Sound hidden := by
  have hcontrol : ∀ b : UInt8, 0x80 ≤ b.toNat → isControl b = true := Bytes.forall_of_lt (by decide +kernel)
  have hdigit : ∀ b : UInt8, (hexValue? (Char.ofNat b.toNat)).isSome → inUserinfo b = false :=
    Bytes.forall_of_lt (by decide +kernel)
  have hshown {b : UInt8} (hb : inUserinfo b = false) : hidden b = false :=
    Bool.eq_false_iff.2 fun h => Bool.eq_false_iff.1 hb (hhigh b h)
  exact ⟨fun b hb => hlow b (hcontrol b hb), hshown (by decide), fun b hb => hshown (hdigit b hb)⟩

theorem sound_isControl : Sound isControl := .of_le (fun _ h => h) (Bytes.forall_of_lt (by decide +kernel))

theorem sound_inFragment : Sound inFragment :=
  .of_le (Bytes.forall_of_lt (by decide +kernel)) (Bytes.forall_of_lt (by decide +kernel))

theorem sound_inQuery : Sound inQuery :=
  .of_le (Bytes.forall_of_lt (by decide +kernel)) (Bytes.forall_of_lt (by decide +kernel))

theorem sound_inPath : Sound inPath :=
  .of_le (Bytes.forall_of_lt (by decide +kernel)) (Bytes.forall_of_lt (by decide +kernel))

theorem sound_inUserinfo : Sound inUserinfo := .of_le (Bytes.forall_of_lt (by decide +kernel)) fun _ h => h

/-! ### One octet -/

def octetText (hidden : UInt8 → Bool) (b : UInt8) : List Char :=
  if hidden b then percentOctet b else [Char.ofNat b.toNat]

/-- The digits of an octet: their values make it up, and no set hides them. -/
theorem upperDigit_spec : ∀ n < 16, hexValue? (upperDigit n) = some n ∧ (upperDigit n).toNat < 128 ∧
    Char.ofNat (UInt8.ofNat (upperDigit n).toNat).toNat = upperDigit n := by decide

theorem isShown_upperDigit {hidden : UInt8 → Bool} (hs : Sound hidden) {n : Nat} (hn : n < 16) :
    isShown hidden (upperDigit n) = true := by
  obtain ⟨hvalue, hlt, hchar⟩ := upperDigit_spec n hn
  have hdigit : hidden (UInt8.ofNat (upperDigit n).toNat) = false := hs.digit _ (by rw [hchar, hvalue]; rfl)
  rw [isShown, hdigit, decide_eq_true hlt]
  rfl

variable {hidden : UInt8 → Bool}

/-- Nothing of what is written is hidden. -/
theorem isShown_of_mem_octetText (hs : Sound hidden) {b : UInt8} {c : Char} (h : c ∈ octetText hidden b) :
    isShown hidden c = true := by
  rw [octetText] at h
  cases hb : hidden b with
  | true =>
    rw [hb, if_pos rfl, percentOctet] at h
    have hlt := b.toNat_lt
    simp only [List.mem_cons, List.not_mem_nil, or_false] at h
    rcases h with rfl | rfl | rfl
    · rw [isShown, show UInt8.ofNat ('%').toNat = 0x25 from rfl, hs.mark]
      rfl
    · exact isShown_upperDigit hs (by omega)
    · exact isShown_upperDigit hs (by omega)
  | false =>
    have hlow : b.toNat < 0x80 := Nat.lt_of_not_le fun hle => Bool.false_ne_true (hb.symm.trans (hs.beyond b hle))
    have hnat : (Char.ofNat b.toNat).toNat = b.toNat := Bytes.toNat_ofNat b
    rw [hb, if_neg Bool.false_ne_true, List.mem_singleton] at h
    rw [h, isShown, hnat, UInt8.ofNat_toNat, hb, decide_eq_true hlow]
    rfl

/-! ### Texts -/

theorem percentChar_eq (hs : Sound hidden) (c : Char) :
    percentChar hidden c = (String.utf8EncodeChar c).flatMap (octetText hidden) := by
  have hbytes : ofString (String.singleton c) = String.utf8EncodeChar c := by
    rw [String.singleton_eq_ofList, Bytes.ofString_ofList, List.flatMap_singleton]
  rw [percentChar, hbytes]
  by_cases hc : c.toNat < 0x80
  · rw [Bytes.utf8EncodeChar_of_lt hc, List.flatMap_singleton, List.flatMap_singleton, octetText, Bytes.ofNat_octet hc]
    cases hidden (UInt8.ofNat c.toNat) <;> simp [hc]
  · rw [if_neg fun h => hc h.1]
    refine List.flatMap_congr fun b hb => ?_
    rw [octetText, if_pos (hs.beyond b (Bytes.le_of_mem_utf8EncodeChar (Nat.le_of_not_lt hc) hb))]

/-- A hidden text, octet by octet. -/
theorem percentEncode_eq (hs : Sound hidden) (cs : List Char) :
    percentEncode hidden cs = (ofString (String.ofList cs)).flatMap (octetText hidden) := by
  rw [Bytes.ofString_ofList, List.flatMap_assoc, percentEncode]
  exact List.flatMap_congr fun c _ => percentChar_eq hs c

theorem isShown_of_mem_percentEncode (hs : Sound hidden) {cs : List Char} {c : Char}
    (h : c ∈ percentEncode hidden cs) : isShown hidden c = true := by
  rw [percentEncode_eq hs] at h
  obtain ⟨b, -, hc⟩ := List.mem_flatMap.1 h
  exact isShown_of_mem_octetText hs hc

/-- A hidden text holds characters of the text, percent signs and digits. -/
theorem mem_percentEncode {cs : List Char} {c : Char} (h : c ∈ percentEncode hidden cs) :
    c ∈ cs ∨ c = '%' ∨ ∃ n < 16, c = upperDigit n := by
  obtain ⟨d, hd, hc⟩ := List.mem_flatMap.1 h
  rw [percentChar] at hc
  split at hc
  · exact .inl (List.mem_singleton.1 hc ▸ hd)
  · obtain ⟨b, -, hb⟩ := List.mem_flatMap.1 hc
    have hlt := b.toNat_lt
    simp only [percentOctet, List.mem_cons, List.not_mem_nil, or_false] at hb
    rcases hb with hb | hb | hb
    · exact .inr (.inl hb)
    · exact .inr (.inr ⟨b.toNat / 16, by omega, hb⟩)
    · exact .inr (.inr ⟨b.toNat % 16, by omega, hb⟩)

/-- A part of a URL as it is written: nothing of it is hidden any more. -/
def Written (hidden : UInt8 → Bool) (s : String) : Prop := ∀ c ∈ s.toList, isShown hidden c = true

theorem written_percentEncode (hs : Sound hidden) (cs : List Char) :
    Written hidden (String.ofList (percentEncode hidden cs)) := fun c hc => by
  rw [String.toList_ofList] at hc
  exact isShown_of_mem_percentEncode hs hc

theorem percentEncode_of_written {s : String} (h : Written hidden s) :
    String.ofList (percentEncode hidden s.toList) = s := by
  rw [percentEncode_of_shown h, String.ofList_toList]

theorem lt_of_isShown {c : Char} (h : isShown hidden c = true) : c.toNat < 128 := by
  rw [isShown, Bool.and_eq_true] at h
  exact of_decide_eq_true h.1

/-- What holds of the characters of ASCII that are shown holds of every character that is shown. -/
theorem forall_of_isShown {p : Char → Prop} (h : ∀ n < 128, isShown hidden (Char.ofNat n) = true → p (Char.ofNat n))
    {c : Char} (hc : isShown hidden c = true) : p c :=
  Bytes.forall_of_ascii (p := fun c => isShown hidden c = true → p c) h (lt_of_isShown hc) hc

/-- The octets of a hidden text. -/
theorem ofString_percentEncode (hs : Sound hidden) (cs : List Char) :
    ofString (String.ofList (percentEncode hidden cs)) =
      (ofString (String.ofList cs)).flatMap fun b => ofPlain (octetText hidden b) := by
  rw [Bytes.ofString_plain fun c hc => lt_of_isShown (isShown_of_mem_percentEncode hs hc), percentEncode_eq hs]
  exact List.map_flatMap

/-! ### Two digits -/

/-- The octet that two digits in front spell, and what follows them. -/
def escape? : Bytes → Option (UInt8 × Bytes)
  | h :: l :: tail => do
    return (UInt8.ofNat (16 * (← hexValue? (Char.ofNat h.toNat)) + (← hexValue? (Char.ofNat l.toNat))), tail)
  | _ => none

theorem percentDecode_mark (rest : Bytes) :
    percentDecode (0x25 :: rest) = match escape? rest with
      | some (b, tail) => b :: percentDecode tail
      | none => 0x25 :: percentDecode rest := by
  match rest with
  | [] => rfl
  | [_] => simp [percentDecode, escape?]
  | h :: l :: tail =>
    cases hh : hexValue? (Char.ofNat h.toNat) <;> cases hl : hexValue? (Char.ofNat l.toNat) <;>
      simp [percentDecode, escape?, hh, hl]

theorem percentDecode_cons {b : UInt8} (h : b ≠ 0x25) (rest : Bytes) :
    percentDecode (b :: rest) = b :: percentDecode rest := by
  rw [percentDecode.eq_def]
  exact if_neg h

theorem length_of_escape? {bs tail : Bytes} {b : UInt8} (h : escape? bs = some (b, tail)) :
    bs.length = tail.length + 2 := by
  match bs with
  | [] | [_] => cases h
  | x :: y :: rest =>
    cases hx : hexValue? (Char.ofNat x.toNat) <;> cases hy : hexValue? (Char.ofNat y.toNat) <;>
      simp [escape?, hx, hy] at h
    rw [← h.2]
    rfl

/-- Induction along the octets of a text: a percent sign in front of two digits goes with both of them. -/
theorem induction_escape {motive : Bytes → Prop} (nil : motive [])
    (plain : ∀ b rest, b ≠ 0x25 → motive rest → motive (b :: rest))
    (mark : ∀ rest, escape? rest = none → motive rest → motive (0x25 :: rest))
    (escape : ∀ rest b tail, escape? rest = some (b, tail) → motive tail → motive (0x25 :: rest))
    (bs : Bytes) : motive bs := by
  induction hn : bs.length using Nat.strongRecOn generalizing bs with
  | ind n ih =>
    match bs with
    | [] => exact nil
    | b :: rest =>
      have hlt : rest.length < n := hn ▸ Nat.lt_succ_self rest.length
      by_cases hb : b = 0x25
      · rw [hb]
        cases hescape : escape? rest with
        | none => exact mark rest hescape (ih rest.length hlt rest rfl)
        | some found =>
          have hlen := length_of_escape? hescape
          exact escape rest found.1 found.2 hescape (ih found.2.length (by omega) found.2 rfl)
      · exact plain b rest hb (ih rest.length hlt rest rfl)

/-- The digits of an octet spell it. -/
theorem escape?_percentOctet (b : UInt8) (rest : Bytes) :
    ∃ ds, ofPlain (percentOctet b) = 0x25 :: ds ∧ escape? (ds ++ rest) = some (b, rest) := by
  have hlt := b.toNat_lt
  obtain ⟨hhigh, -, hchigh⟩ := upperDigit_spec (b.toNat / 16) (by omega)
  obtain ⟨hlow, -, hclow⟩ := upperDigit_spec (b.toNat % 16) (by omega)
  have hb : UInt8.ofNat (16 * (b.toNat / 16) + b.toNat % 16) = b := by
    rw [Nat.div_add_mod, UInt8.ofNat_toNat]
  refine ⟨ofPlain [upperDigit (b.toNat / 16), upperDigit (b.toNat % 16)], rfl, ?_⟩
  show escape? (_ :: _ :: rest) = _
  simp only [escape?, hchigh, hclow, hhigh, hlow, Option.bind_eq_bind, Option.bind_some, hb]
  rfl

/-- What a set hides is no digit. -/
theorem hexValue?_of_hidden (hs : Sound hidden) {b : UInt8} (hb : hidden b = true) :
    hexValue? (Char.ofNat b.toNat) = none :=
  Option.not_isSome_iff_eq_none.1 fun h => Bool.false_ne_true ((hs.digit b h).symm.trans hb)

/-- The octets of a shown octet. -/
theorem ofPlain_octetText_shown {b : UInt8} (hb : hidden b = false) : ofPlain (octetText hidden b) = [b] := by
  rw [octetText, hb, if_neg Bool.false_ne_true]
  show [UInt8.ofNat (Char.ofNat b.toNat).toNat] = [b]
  rw [Bytes.toNat_ofNat, UInt8.ofNat_toNat]

/-- The octets of a hidden octet start with a percent sign. -/
theorem ofPlain_octetText_hidden {b : UInt8} (hb : hidden b = true) :
    ofPlain (octetText hidden b) = ofPlain (percentOctet b) := by
  rw [octetText, hb, if_pos rfl]

/-- A text with an octet in front that is no digit does not start with two digits. -/
theorem escape?_cons_none {b : UInt8} (hb : hexValue? (Char.ofNat b.toNat) = none) (rest : Bytes) :
    escape? (b :: rest) = none := by
  cases rest <;> simp [escape?, hb]

theorem escape?_cons_cons_none (a : UInt8) {b : UInt8} (hb : hexValue? (Char.ofNat b.toNat) = none)
    (rest : Bytes) : escape? (a :: b :: rest) = none := by
  cases ha : hexValue? (Char.ofNat a.toNat) <;> simp [escape?, ha, hb]

/-- Digits stand in front of a hidden text where they stand in front of the text, and spell the same octet. -/
theorem escape?_flatMap (hs : Sound hidden) (bs : Bytes) :
    escape? (bs.flatMap fun b => ofPlain (octetText hidden b)) =
      (escape? bs).map fun (b, tail) => (b, tail.flatMap fun b => ofPlain (octetText hidden b)) := by
  have hmark : hexValue? (Char.ofNat (0x25 : UInt8).toNat) = none := by decide
  match bs with
  | [] => rfl
  | a :: rest =>
    rw [List.flatMap_cons]
    cases ha : hidden a with
    | true =>
      obtain ⟨ds, hds, -⟩ := escape?_percentOctet a []
      rw [ofPlain_octetText_hidden ha, hds, escape?_cons_none (hexValue?_of_hidden hs ha)]
      exact escape?_cons_none hmark _
    | false =>
      rw [ofPlain_octetText_shown ha]
      match rest with
      | [] => rfl
      | b :: tail =>
        rw [List.flatMap_cons]
        cases hb : hidden b with
        | true =>
          obtain ⟨ds, hds, -⟩ := escape?_percentOctet b []
          rw [ofPlain_octetText_hidden hb, hds, escape?_cons_cons_none a (hexValue?_of_hidden hs hb)]
          exact escape?_cons_cons_none a hmark _
        | false =>
          rw [ofPlain_octetText_shown hb]
          cases hva : hexValue? (Char.ofNat a.toNat) <;> cases hvb : hexValue? (Char.ofNat b.toNat) <;>
            simp [escape?, hva, hvb]

/-! ### Hidden and shown again -/

/-- Hiding octets changes nothing of what is behind the percent signs. -/
theorem percentDecode_flatMap (hs : Sound hidden) (bs : Bytes) :
    percentDecode (bs.flatMap fun b => ofPlain (octetText hidden b)) = percentDecode bs := by
  induction bs using induction_escape with
  | nil => rfl
  | plain b rest hne ih =>
    rw [List.flatMap_cons, percentDecode_cons hne]
    cases hb : hidden b with
    | true =>
      obtain ⟨ds, hds, hescape⟩ := escape?_percentOctet b (rest.flatMap fun b => ofPlain (octetText hidden b))
      rw [ofPlain_octetText_hidden hb, hds, List.cons_append, percentDecode_mark, hescape, ← ih]
    | false => rw [ofPlain_octetText_shown hb, List.singleton_append, percentDecode_cons hne, ih]
  | mark rest hnone ih =>
    rw [List.flatMap_cons, ofPlain_octetText_shown hs.mark, List.singleton_append, percentDecode_mark,
      percentDecode_mark, escape?_flatMap hs, hnone, ← ih]
    rfl
  | escape rest b tail hsome ih =>
    rw [List.flatMap_cons, ofPlain_octetText_shown hs.mark, List.singleton_append, percentDecode_mark,
      percentDecode_mark, escape?_flatMap hs, hsome]
    exact congrArg (b :: ·) ih

/-- What is behind the percent signs of a hidden text is what is behind those of the text itself. -/
theorem percentDecode_percentEncode (hs : Sound hidden) (s : String) :
    percentDecode (ofString (String.ofList (percentEncode hidden s.toList))) = percentDecode (ofString s) := by
  rw [ofString_percentEncode hs, percentDecode_flatMap hs, String.ofList_toList]

/-- Whether some percent sign stands in front of two hexadecimal digits. -/
def hasEscape : Bytes → Bool
  | [] => false
  | b :: rest => (b == 0x25 && (escape? rest).isSome) || hasEscape rest

theorem length_percentDecode_le (bs : Bytes) : (percentDecode bs).length ≤ bs.length := by
  induction bs using induction_escape with
  | nil => exact Nat.le_refl 0
  | plain b rest hne ih =>
    rw [percentDecode_cons hne]
    exact Nat.succ_le_succ ih
  | mark rest hnone ih =>
    rw [percentDecode_mark, hnone]
    exact Nat.succ_le_succ ih
  | escape rest b tail hsome ih =>
    have hlen := length_of_escape? hsome
    rw [percentDecode_mark, hsome]
    exact Nat.succ_le_succ (Nat.le_trans ih (by omega))

/-- Two digits behind a percent sign are lost, and what they spell takes their place. -/
theorem length_percentDecode_lt {bs : Bytes} (h : hasEscape bs = true) :
    (percentDecode bs).length < bs.length := by
  induction bs with
  | nil => cases h
  | cons b rest ih =>
    rw [hasEscape, Bool.or_eq_true, Bool.and_eq_true, beq_iff_eq] at h
    rw [List.length_cons]
    by_cases hmark : b = 0x25
    · rw [hmark, percentDecode_mark]
      cases hescape : escape? rest with
      | none =>
        have hrest : hasEscape rest = true := by simpa [hescape] using h
        exact Nat.succ_lt_succ (ih hrest)
      | some found =>
        have hlen := length_of_escape? hescape
        have htail := length_percentDecode_le found.2
        exact Nat.succ_lt_succ (Nat.lt_of_le_of_lt htail (by omega))
    · rw [percentDecode_cons hmark]
      exact Nat.succ_lt_succ (ih (h.resolve_left fun hb => hmark hb.1))

/-- A text is what it shows if and only if no percent sign in it stands in front of two digits. -/
theorem percentDecode_eq_self_iff (bs : Bytes) : percentDecode bs = bs ↔ hasEscape bs = false := by
  refine ⟨fun heq => Bool.eq_false_iff.2 fun h => ?_, fun h => ?_⟩
  · exact absurd (congrArg List.length heq) (Nat.ne_of_lt (length_percentDecode_lt h))
  · induction bs with
    | nil => rfl
    | cons b rest ih =>
      rw [hasEscape, Bool.or_eq_false_iff] at h
      by_cases hmark : b = 0x25
      · have hnone : escape? rest = none := by simpa [hmark] using h.1
        rw [hmark, percentDecode_mark, hnone, ih h.2]
      · rw [percentDecode_cons hmark, ih h.2]

end Url

end SessionVault
