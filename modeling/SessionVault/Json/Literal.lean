import SessionVault.Bytes

/-!
# Literals: strings as they are written

What stands between the quotes of a JSON string is a list of pieces: octets, and the sixteen-bit units of
`\u` escapes.  `Literal.scan?` takes the pieces up to the closing quote off the front of a text; it checks how
they are written and not what they mean, so half of a surrogate pair passes.  `Literal.text?` is the text they
stand for: units that are halves of a pair have to come in pairs, and the octets have to be UTF-8.
-/

namespace SessionVault

/-- One piece of a string. -/
inductive Piece where
  | octet (b : UInt8)
  | unit (n : Nat)
deriving DecidableEq

namespace Literal

/-! ### Scanning -/

/-- The octet of a short escape, by the letter behind the backslash. -/
def shortEscape? (b : UInt8) : Option UInt8 :=
  if b = 0x22 ∨ b = 0x5c ∨ b = 0x2f then some b
  else if b = 0x62 then some 0x08
  else if b = 0x66 then some 0x0c
  else if b = 0x6e then some 0x0a
  else if b = 0x72 then some 0x0d
  else if b = 0x74 then some 0x09
  else none

def hexValue? (b : UInt8) : Option Nat := Bytes.hexValue? (Char.ofNat b.toNat)

def unit? (a b c d : UInt8) : Option Nat := do
  return 4096 * (← hexValue? a) + 256 * (← hexValue? b) + 16 * (← hexValue? c) + (← hexValue? d)

/-- The pieces up to the closing quote, and the rest behind it. -/
def scan? : Bytes → Option (List Piece × Bytes)
  | [] => none
  | b :: rest =>
    if b = 0x22 then some ([], rest)
    else if b < 0x20 then none
    else if b = 0x5c then
      match rest with
      | [] => none
      | e :: rest =>
        if e = 0x75 then
          match rest with
          | h₁ :: h₂ :: h₃ :: h₄ :: rest => do
            let n ← unit? h₁ h₂ h₃ h₄
            let (ps, rest) ← scan? rest
            return (.unit n :: ps, rest)
          | _ => none
        else do
          let o ← shortEscape? e
          let (ps, rest) ← scan? rest
          return (.octet o :: ps, rest)
    else do
      let (ps, rest) ← scan? rest
      return (.octet b :: ps, rest)

/-! ### Meaning -/

/-- Whether a unit is the first half of a pair. -/
def isLeading (n : Nat) : Bool := 0xD800 ≤ n && n < 0xDC00

/-- Whether a unit is the second half of a pair. -/
def isTrailing (n : Nat) : Bool := 0xDC00 ≤ n && n < 0xE000

def pair (hi lo : Nat) : Nat := 0x10000 + (hi - 0xD800) * 0x400 + (lo - 0xDC00)

def utf8 (n : Nat) : Bytes := Bytes.ofString (String.singleton (Char.ofNat n))

def octets? : List Piece → Option Bytes
  | [] => some []
  | .octet b :: rest => (octets? rest).map (b :: ·)
  | .unit n :: rest =>
    if isTrailing n then none
    else if isLeading n then
      match rest with
      | .unit m :: rest => if isTrailing m then (octets? rest).map (utf8 (pair n m) ++ ·) else none
      | _ => none
    else (octets? rest).map (utf8 n ++ ·)

def text? (ps : List Piece) : Option String := do Bytes.toString? (← octets? ps)

/-- The pieces of a text written without escapes. -/
def ofText (s : String) : List Piece := (Bytes.ofString s).map .octet

theorem octets?_octet (bs : Bytes) : octets? (bs.map .octet) = some bs := by
  induction bs with
  | nil => rfl
  | cons b bs ih => simp [octets?, ih]

/-- A text written without escapes stands for itself. -/
theorem text?_ofText (s : String) : text? (ofText s) = some s := by
  simp [text?, ofText, octets?_octet, Bytes.toString?_ofString]

end Literal

end SessionVault
