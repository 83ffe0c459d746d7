/-!
# Naturals: numbers in settings and in answers

A number in a setting is written in decimal digits, with a plus sign in front if one likes, and has to fit the
number of bits that the setting has.  Blanks, a minus sign and the empty text are refused.  What is written in
plain digits is read back (`read?_toString`).  A number with a sign may have a minus sign as well.
-/

namespace SessionVault.Natural

def ofDigits (ds : List Char) : Nat := ds.foldl (fun n c => n * 10 + (c.toNat - '0'.toNat)) 0

def isDigit (c : Char) : Bool := '0' ≤ c && c ≤ '9'

/-- A text without the plus sign in front. -/
def unsigned : List Char → List Char
  | '+' :: rest => rest
  | cs => cs

/-- The number that a text of digits, one at least, spells. -/
def ofText? (ds : List Char) : Option Nat := if ds ≠ [] ∧ ds.all isDigit then some (ofDigits ds) else none

/-- The number of so many bits that a text spells. -/
def read? (bits : Nat) (text : String) : Option Nat :=
  (ofText? (unsigned text.toList)).filter (· < Nat.pow 2 bits)

/-- The number of so many bits, the sign among them, that a text spells. -/
def readSigned? (bits : Nat) (text : String) : Option Int :=
  match text.toList with
  | '-' :: ds => ((ofText? ds).filter (· ≤ Nat.pow 2 (bits - 1))).map fun n => -(n : Int)
  | cs => ((ofText? (unsigned cs)).filter (· < Nat.pow 2 (bits - 1))).map fun n => (n : Int)

/-- A number read fits its bits. -/
theorem lt_of_read? {bits n : Nat} {text : String} (h : read? bits text = some n) : n < Nat.pow 2 bits := by
  exact of_decide_eq_true (Option.filter_eq_some_iff.1 h).2

/-! ### Written numbers -/

theorem isDigit_eq (c : Char) : isDigit c = c.isDigit := by
  simp [isDigit, Char.isDigit, Char.le_def, UInt32.le_iff_toNat_le]

/-- The digits of a number spell it. -/
theorem ofText?_toDigits (n : Nat) : ofText? (Nat.toDigits 10 n) = some n := by
  have hd : ∀ c ∈ Nat.toDigits 10 n, isDigit c = true := fun c hc => by
    rw [isDigit_eq]
    exact Nat.isDigit_of_mem_toDigits (by decide) (by decide) hc
  have hv : ofDigits (Nat.toDigits 10 n) = n := by
    have h := Nat.ofDigitChars_toDigits (b := 10) (n := n) (by decide) (by decide)
    rw [Nat.ofDigitChars_eq_foldl] at h
    simpa [ofDigits, Nat.mul_comm] using h
  simp [ofText?, hv, Nat.toDigits_ne_nil]
  exact hd

/-- No plus sign starts the digits of a number. -/
theorem unsigned_toDigits (n : Nat) : unsigned (Nat.toDigits 10 n) = Nat.toDigits 10 n := by
  unfold unsigned
  split
  · rename_i rest h
    have := Nat.isDigit_of_mem_toDigits (b := 10) (n := n) (c := '+') (by decide) (by decide) (by simp [h])
    exact absurd this (by decide)
  · rfl

/-- A number is read back where it fits its bits, and refused where it does not. -/
theorem read?_toString (bits n : Nat) :
    read? bits (toString n) = if n < Nat.pow 2 bits then some n else none := by
  have hd : (toString n).toList = Nat.toDigits 10 n := by
    change (Nat.repr n).toList = _
    rw [Nat.repr_eq_ofList_toDigits, String.toList_ofList]
  rw [read?, hd, unsigned_toDigits, ofText?_toDigits]
  by_cases h : n < Nat.pow 2 bits
  · rw [if_pos h]
    exact Option.filter_some_pos (decide_eq_true h)
  · rw [if_neg h]
    exact Option.filter_some_neg (decide_eq_false h)

end SessionVault.Natural
