import SessionVault.Json.Numeral
import SessionVault.Proofs.Text.Digits
import SessionVault.Proofs.Text.Octets

/-!
# Numerals in a text

A proper numeral (`Spelling`) is an optional minus sign, digits without a zero in front, and perhaps digits behind
a point and an exponent.

* `Spelling.Proper` — the numerals that numbers are written as;
* `Ends` — what may follow a numeral: nothing that could belong to it;
* `scan?_spelling` — a proper numeral is scanned to its end, whatever follows.
-/

namespace SessionVault

namespace Numeral

open Bytes (ofPlain)

/-! ### Digits -/

def digitValue (c : Char) : Nat := c.toNat - 48

theorem toNat_of_isDigit {c : Char} (h : Natural.isDigit c = true) : 48 ≤ c.toNat ∧ c.toNat ≤ 57 := by
  simp only [Natural.isDigit, Bool.and_eq_true, decide_eq_true_eq, Char.le_def, UInt32.le_iff_toNat_le] at h
  exact h

theorem isDigit_plain {c : Char} (h : Natural.isDigit c = true) : isDigit (UInt8.ofNat c.toNat) = true := by
  obtain ⟨hlow, hhigh⟩ := toNat_of_isDigit h
  simp only [isDigit, Bool.and_eq_true, decide_eq_true_eq, UInt8.le_iff_toNat_le, UInt8.toNat_ofNat']
  exact ⟨show 48 ≤ c.toNat % 256 by omega, show c.toNat % 256 ≤ 57 by omega⟩

theorem digit_plain {c : Char} (h : Natural.isDigit c = true) : digit (UInt8.ofNat c.toNat) = digitValue c := by
  obtain ⟨hlow, hhigh⟩ := toNat_of_isDigit h
  rw [digit, digitValue, UInt8.toNat_ofNat', Nat.mod_eq_of_lt (by omega)]

def NoDigit (rest : Bytes) : Prop := ∀ b ∈ rest.head?, isDigit b = false

theorem digits_append {ds : List Char} {rest : Bytes} (hd : ∀ c ∈ ds, Natural.isDigit c = true) (hr : NoDigit rest) :
    digits (ofPlain ds ++ rest) = (ds.map digitValue, rest) := by
  have hall : ∀ b ∈ ofPlain ds, isDigit b = true := by
    intro b hb
    obtain ⟨c, hc, rfl⟩ := List.mem_map.mp hb
    exact isDigit_plain (hd c hc)
  have hmap : (ofPlain ds).map digit = ds.map digitValue := by
    rw [ofPlain, List.map_map]
    exact List.map_congr_left fun c hc => digit_plain (hd c hc)
  rw [digits, List.takeWhile_append_of_pos hall, List.dropWhile_append_of_pos hall]
  cases rest with
  | nil => rw [List.takeWhile_nil, List.append_nil, hmap, List.dropWhile_nil]
  | cons b rest =>
    have hb : isDigit b = false := hr b rfl
    rw [List.takeWhile_cons, List.dropWhile_cons, hb]
    simp only [Bool.false_eq_true, if_false, List.append_nil, hmap]

theorem digits?_append {ds : List Char} {rest : Bytes} (hne : ds ≠ []) (hd : ∀ c ∈ ds, Natural.isDigit c = true)
    (hr : NoDigit rest) : digits? (ofPlain ds ++ rest) = some (ds.map digitValue, rest) := by
  rw [digits?, digits_append hd hr]
  cases ds with
  | nil => exact absurd rfl hne
  | cons c ds => rfl

/-! ### Proper numerals -/

/-- A numeral as it is written: a sign, digits, digits behind a point, and the sign and the digits of an exponent. -/
structure Spelling where
  negative : Bool
  whole : List Char
  fraction : Option (List Char)
  exponent : Option (Bool × List Char)

namespace Spelling

def fractionText (s : Spelling) : List Char := s.fraction.elim [] ('.' :: ·)

def exponentText (s : Spelling) : List Char :=
  s.exponent.elim [] fun (minus, ds) => 'e' :: (if minus then '-' else '+') :: ds

def text (s : Spelling) : List Char :=
  (if s.negative then ['-'] else []) ++ (s.whole ++ (s.fractionText ++ s.exponentText))

/-- A numeral is proper if every part has digits and nothing else, and no zero stands in front of other digits. -/
structure Proper (s : Spelling) : Prop where
  whole_digits : ∀ c ∈ s.whole, Natural.isDigit c = true
  whole_front : s.whole = ['0'] ∨ s.whole ≠ [] ∧ s.whole.head? ≠ some '0'
  fraction_digits : ∀ ds ∈ s.fraction, ds ≠ [] ∧ ∀ c ∈ ds, Natural.isDigit c = true
  exponent_digits : ∀ e ∈ s.exponent, e.2 ≠ [] ∧ ∀ c ∈ e.2, Natural.isDigit c = true

def numeral (s : Spelling) : Numeral where
  negative := s.negative
  whole := s.whole.map digitValue
  fraction := s.fraction.map (·.map digitValue)
  exponent := s.exponent.map fun (minus, ds) =>
    if minus then -(ofDigits (ds.map digitValue) : Int) else (ofDigits (ds.map digitValue) : Int)

end Spelling

/-- What follows cannot belong to a numeral. -/
def Ends (rest : Bytes) : Prop := ∀ b ∈ rest.head?, isDigit b = false ∧ b ≠ 0x2e ∧ b ≠ 0x65 ∧ b ≠ 0x45

theorem Ends.noDigit {rest : Bytes} (h : Ends rest) : NoDigit rest := fun b hb => (h b hb).1

/-! ### Scanning -/

theorem exponent?_append {s : Spelling} (hs : s.Proper) {rest : Bytes} (hr : Ends rest) :
    exponent? (ofPlain s.exponentText ++ rest) = some (s.numeral.exponent, rest) := by
  cases he : s.exponent with
  | none =>
    simp only [Spelling.exponentText, Spelling.numeral, he, Option.elim_none, Option.map_none]
    cases rest with
    | nil => rfl
    | cons b rest =>
      obtain ⟨-, -, hlower, hupper⟩ := hr b rfl
      show exponent? (b :: rest) = _
      rw [exponent?, if_neg (by simp [hlower, hupper])]
  | some e =>
    obtain ⟨minus, ds⟩ := e
    obtain ⟨hne, hd⟩ := hs.exponent_digits _ he
    have hdigits := digits?_append hne hd hr.noDigit
    simp only [Spelling.exponentText, Spelling.numeral, he, Option.elim_some, Option.map_some]
    cases minus with
    | true =>
      show (digits? (ofPlain ds ++ rest)).map _ = _
      rw [hdigits]
      rfl
    | false =>
      show (digits? (ofPlain ds ++ rest)).map _ = _
      rw [hdigits]
      rfl

/-- Neither a digit nor a point follows the whole digits and the fraction. -/
theorem exponentText_front (s : Spelling) {rest : Bytes} (hr : Ends rest) :
    ∀ b ∈ (ofPlain s.exponentText ++ rest).head?, isDigit b = false ∧ b ≠ 0x2e := by
  cases he : s.exponent with
  | none =>
    simp only [Spelling.exponentText, he, Option.elim_none]
    intro b hb
    exact ⟨(hr b hb).1, (hr b hb).2.1⟩
  | some e =>
    simp only [Spelling.exponentText, he, Option.elim_some]
    intro b hb
    cases hb
    exact ⟨rfl, by decide⟩

theorem fraction?_append {s : Spelling} (hs : s.Proper) {rest : Bytes}
    (hr : ∀ b ∈ rest.head?, isDigit b = false ∧ b ≠ 0x2e) :
    fraction? (ofPlain s.fractionText ++ rest) = some (s.numeral.fraction, rest) := by
  cases hf : s.fraction with
  | none =>
    simp only [Spelling.fractionText, Spelling.numeral, hf, Option.elim_none, Option.map_none]
    cases rest with
    | nil => rfl
    | cons b rest =>
      show fraction? (b :: rest) = _
      rw [fraction?, if_neg (hr b rfl).2]
  | some ds =>
    obtain ⟨hne, hd⟩ := hs.fraction_digits _ hf
    simp only [Spelling.fractionText, Spelling.numeral, hf, Option.elim_some, Option.map_some]
    show (digits? (ofPlain ds ++ rest)).map _ = _
    rw [digits?_append hne hd fun b hb => (hr b hb).1]
    rfl

/-- No digit follows the whole digits. -/
theorem fractionText_front (s : Spelling) {rest : Bytes} (hr : NoDigit rest) :
    NoDigit (ofPlain s.fractionText ++ rest) := by
  cases hf : s.fraction with
  | none =>
    simp only [Spelling.fractionText, hf, Option.elim_none]
    exact hr
  | some ds =>
    simp only [Spelling.fractionText, hf, Option.elim_some]
    intro b hb
    cases hb
    rfl

theorem whole?_append {s : Spelling} (hs : s.Proper) {rest : Bytes} (hr : NoDigit rest) :
    whole? (ofPlain s.whole ++ rest) = some (s.numeral.whole, rest) := by
  rcases hs.whole_front with h0 | ⟨hne, hfront⟩
  · rw [Spelling.numeral, h0]
    rfl
  · have hdigits := digits?_append hne hs.whole_digits hr
    cases hw : s.whole with
    | nil => exact absurd hw hne
    | cons c ds =>
      have hc : UInt8.ofNat c.toNat ≠ 0x30 := by
        obtain ⟨hlow, hhigh⟩ := toNat_of_isDigit (hs.whole_digits c (by rw [hw]; exact List.mem_cons_self))
        intro h
        have hn : c.toNat % 256 = 48 := by
          rw [← UInt8.toNat_ofNat', h]
          rfl
        have h48 : c.toNat = ('0' : Char).toNat := show c.toNat = 48 by omega
        exact hfront (by rw [hw, Char.toNat_inj.mp h48]; rfl)
      rw [hw] at hdigits
      show (if UInt8.ofNat c.toNat = 0x30 then _ else digits? (ofPlain (c :: ds) ++ rest)) = _
      rw [if_neg hc, hdigits, Spelling.numeral, hw]

/-- The numeral at the front of a text, behind its sign. -/
def behindSign? (negative : Bool) (bs : Bytes) : Option (Numeral × Bytes) := do
  let (whole, bs) ← whole? bs
  let (fraction, bs) ← fraction? bs
  let (exponent, bs) ← exponent? bs
  return (⟨negative, whole, fraction, exponent⟩, bs)

theorem scan?_minus (rest : Bytes) : scan? (0x2d :: rest) = behindSign? true rest := rfl

theorem scan?_of_ne {b : UInt8} (h : b ≠ 0x2d) (rest : Bytes) : scan? (b :: rest) = behindSign? false (b :: rest) := by
  rw [scan?]
  dsimp only
  rw [if_neg h]
  rfl

/-- A proper numeral is scanned to its end. -/
theorem scan?_spelling {s : Spelling} (hs : s.Proper) {rest : Bytes} (hr : Ends rest) :
    scan? (ofPlain s.text ++ rest) = some (s.numeral, rest) := by
  -- From the last part to the first one, since each has to know what may stand behind it.
  have hexp := exponent?_append hs hr
  have hexpFront := exponentText_front s hr
  have hfrac := fraction?_append hs hexpFront
  have hwhole := whole?_append hs (fractionText_front s fun b hb => (hexpFront b hb).1)
  have hparts : ofPlain (s.whole ++ (s.fractionText ++ s.exponentText)) ++ rest =
      ofPlain s.whole ++ (ofPlain s.fractionText ++ (ofPlain s.exponentText ++ rest)) := by
    rw [Bytes.ofPlain_append, Bytes.ofPlain_append, List.append_assoc, List.append_assoc]
  have hafter : behindSign? s.negative (ofPlain (s.whole ++ (s.fractionText ++ s.exponentText)) ++ rest) =
      some (s.numeral, rest) := by
    rw [behindSign?, hparts, hwhole]
    show (fraction? _).bind _ = _
    rw [hfrac]
    show (exponent? _).bind _ = _
    rw [hexp]
    rfl
  cases hn : s.negative with
  | true =>
    rw [Spelling.text, hn, if_pos rfl]
    rw [hn] at hafter
    exact (scan?_minus _).trans hafter
  | false =>
    rw [Spelling.text, hn, if_neg Bool.false_ne_true, List.nil_append]
    rw [hn] at hafter
    cases hw : s.whole with
    | nil =>
      rcases hs.whole_front with h | h
      · rw [hw] at h
        cases h
      · exact absurd hw h.1
    | cons c ds =>
      have hc := hs.whole_digits c (by rw [hw]; exact List.mem_cons_self)
      have hminus : UInt8.ofNat c.toNat ≠ 0x2d := by
        intro h
        have := isDigit_plain hc
        rw [h] at this
        exact absurd this (by decide)
      rw [hw] at hafter
      exact (scan?_of_ne hminus _).trans hafter

end Numeral

end SessionVault
