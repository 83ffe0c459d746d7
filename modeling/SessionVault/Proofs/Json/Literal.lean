import SessionVault.Json.Literal
import SessionVault.Json.Value

/-!
# Strings read back from their text

`Json.quote` writes an octet as itself or as an escape, and each of the two is one piece for `Literal.scan?`
(`scan?_escapeByte`).  The pieces of a quoted string stand for the string again (`text?_written`).
-/

namespace SessionVault.Literal

/-! ### One octet -/

/-- The control characters that have a letter for their escape. -/
def hasLetter (b : UInt8) : Bool := b = 0x08 ∨ b = 0x0c ∨ b = 0x0a ∨ b = 0x0d ∨ b = 0x09

def piece (b : UInt8) : Piece := if b < 0x20 ∧ !hasLetter b then .unit b.toNat else .octet b

/-- The four digits of the escape of a control character spell it. -/
theorem unit?_control {b : UInt8} (h : b < 0x20) :
    unit? 0x30 0x30 (UInt8.ofNat (Bytes.hexDigit (b.toNat / 16)).toNat)
      (UInt8.ofNat (Bytes.hexDigit (b.toNat % 16)).toNat) = some b.toNat := by
  have hall : ∀ n < 32, unit? 0x30 0x30 (UInt8.ofNat (Bytes.hexDigit (n / 16)).toNat)
      (UInt8.ofNat (Bytes.hexDigit (n % 16)).toNat) = some n := by decide
  exact hall b.toNat (UInt8.lt_iff_toNat_lt.mp h)

/-- What an octet is written as is scanned as its piece. -/
theorem scan?_escapeByte (b : UInt8) (rest : Bytes) :
    scan? (Json.escapeByte b ++ rest) = (scan? rest).map fun (ps, behind) => (piece b :: ps, behind) := by
  have hshort : ∀ (e : UInt8) (o : UInt8), e ≠ 0x75 → shortEscape? e = some o →
      scan? (0x5c :: e :: rest) = (scan? rest).map fun (ps, behind) => (Piece.octet o :: ps, behind) := by
    intro e o he ho
    rw [scan?.eq_def]
    show (if e = 0x75 then _ else _) = _
    rw [if_neg he, ho]
    cases scan? rest <;> rfl
  rw [Json.escapeByte]
  -- The octets with an escape of their own come first; the control characters among the others have four digits.
  by_cases h22 : b = 0x22
  · subst h22
    exact hshort 0x22 0x22 (by decide) rfl
  rw [if_neg h22]
  by_cases h5c : b = 0x5c
  · subst h5c
    exact hshort 0x5c 0x5c (by decide) rfl
  rw [if_neg h5c]
  by_cases h08 : b = 0x08
  · subst h08
    exact hshort 0x62 0x08 (by decide) rfl
  rw [if_neg h08]
  by_cases h0c : b = 0x0c
  · subst h0c
    exact hshort 0x66 0x0c (by decide) rfl
  rw [if_neg h0c]
  by_cases h0a : b = 0x0a
  · subst h0a
    exact hshort 0x6e 0x0a (by decide) rfl
  rw [if_neg h0a]
  by_cases h0d : b = 0x0d
  · subst h0d
    exact hshort 0x72 0x0d (by decide) rfl
  rw [if_neg h0d]
  by_cases h09 : b = 0x09
  · subst h09
    exact hshort 0x74 0x09 (by decide) rfl
  rw [if_neg h09]
  by_cases hcontrol : b < 0x20
  · have hpiece : piece b = .unit b.toNat := by
      rw [piece, if_pos ⟨hcontrol, by simp [hasLetter, h08, h0c, h0a, h0d, h09]⟩]
    rw [if_pos hcontrol, hpiece]
    show scan? (0x5c :: 0x75 :: 0x30 :: 0x30 :: UInt8.ofNat (Bytes.hexDigit (b.toNat / 16)).toNat ::
      UInt8.ofNat (Bytes.hexDigit (b.toNat % 16)).toNat :: rest) = _
    rw [scan?.eq_def]
    show (unit? 0x30 0x30 _ _).bind _ = _
    rw [unit?_control hcontrol]
    cases scan? rest <;> rfl
  · have hpiece : piece b = .octet b := by
      rw [piece, if_neg fun h => hcontrol h.1]
    rw [if_neg hcontrol, hpiece, List.singleton_append, scan?.eq_def]
    show (if b = 0x22 then _ else if b < 0x20 then _ else if b = 0x5c then _ else _) = _
    rw [if_neg h22, if_neg hcontrol, if_neg h5c]
    cases scan? rest <;> rfl

/-! ### Whole strings -/

def written (s : String) : List Piece := (Bytes.ofString s).map piece

/-- A quoted string is scanned up to its closing quote. -/
theorem scan?_quoted (bs rest : Bytes) :
    scan? (bs.flatMap Json.escapeByte ++ 0x22 :: rest) = some (bs.map piece, rest) := by
  induction bs with
  | nil => exact scan?.eq_def _
  | cons b bs ih =>
    rw [List.flatMap_cons, List.append_assoc, scan?_escapeByte, ih]
    rfl

/-- A control character is a text of one octet. -/
theorem utf8_control {n : Nat} (h : n < 32) : utf8 n = [UInt8.ofNat n] := by
  have hall : ∀ n < 32, utf8 n = [UInt8.ofNat n] := by decide
  exact hall n h

theorem octets?_piece (b : UInt8) (ps : List Piece) : octets? (piece b :: ps) = (octets? ps).map (b :: ·) := by
  rw [piece]
  split
  · rename_i h
    have hlt : b.toNat < 32 := UInt8.lt_iff_toNat_lt.mp h.1
    have htrail : isTrailing b.toNat = false := by
      rw [isTrailing, decide_eq_false (by omega), Bool.false_and]
    have hlead : isLeading b.toNat = false := by
      rw [isLeading, decide_eq_false (by omega), Bool.false_and]
    rw [octets?.eq_def]
    simp only [htrail, hlead, utf8_control hlt, UInt8.ofNat_toNat]
    rfl
  · rfl

theorem octets?_pieces (bs : Bytes) : octets? (bs.map piece) = some bs := by
  induction bs with
  | nil => rfl
  | cons b bs ih => rw [List.map_cons, octets?_piece, ih, Option.map_some]

/-- The pieces of a string stand for it. -/
theorem text?_written (s : String) : text? (written s) = some s := by
  rw [text?, written, octets?_pieces]
  exact Bytes.toString?_ofString s

end SessionVault.Literal
