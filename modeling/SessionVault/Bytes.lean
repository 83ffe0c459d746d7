/-!
# Bytes: octet strings, their words and their hexadecimal spelling

An octet string is a list of `UInt8`.  This module holds what every format below is built from:

* `Bytes.ofString` / `Bytes.toString?` — the UTF-8 octets of a text, and the text of octets that are UTF-8;
* `Bytes.mended` — the text of any octets, with a sign in the place of what is no character;
* `Bytes.bigEndian`, `Bytes.littleEndian` and `Bytes.ofBigEndian`, `Bytes.ofLittleEndian` — numbers as octets;
* `Bytes.xor` — the bitwise sum of two octet strings, as long as the shorter one;
* `Bytes.blocks` — an octet string cut into blocks, the last of which may be short;
* `Bytes.toHex` / `Bytes.ofHex?` — two lower-case digits per octet.

`toString?_ofString`, `xor_xor` and `length_bigEndian` are the facts used elsewhere.
-/

namespace SessionVault

/-- An octet string. -/
abbrev Bytes := List UInt8

namespace Bytes

/-! ### Texts -/

def ofString (s : String) : Bytes := s.toUTF8.data.toList

/-- The text whose UTF-8 octets these are, if there is one. -/
def toString? (bs : Bytes) : Option String := String.fromUTF8? ⟨bs.toArray⟩

theorem toString?_ofString (s : String) : toString? (ofString s) = some s := by
  have h : (⟨(ofString s).toArray⟩ : ByteArray) = s.toUTF8 := rfl
  rw [toString?, h, String.fromUTF8?]
  exact dif_pos s.isValidUTF8

/-- How many octets follow the first one of a character, and between which bounds the second one is. -/
def following? (b : UInt8) : Option (Nat × UInt8 × UInt8) :=
  if b < 0x80 then some (0, 0x80, 0xbf)
  else if b < 0xc2 then none
  else if b < 0xe0 then some (1, 0x80, 0xbf)
  else if b < 0xf0 then some (2, if b = 0xe0 then 0xa0 else 0x80, if b = 0xed then 0x9f else 0xbf)
  else if b < 0xf5 then some (3, if b = 0xf0 then 0x90 else 0x80, if b = 0xf4 then 0x8f else 0xbf)
  else none

/-- The octets in front that go on with a character: at most `n`, the first one between bounds. -/
def continuation : Nat → UInt8 → UInt8 → Bytes → Bytes
  | n + 1, low, high, b :: bs => if low ≤ b ∧ b ≤ high then b :: continuation n 0x80 0xbf bs else []
  | _, _, _, _ => []

def replacement : Char := Char.ofNat 0xfffd

/-- The characters of octets, with a sign for each octet that begins none and for what goes on with one that does
not end. -/
def mendedChars : Bytes → List Char
  | [] => []
  | b :: bs =>
    match following? b with
    | none => replacement :: mendedChars bs
    | some (n, low, high) =>
      let more := continuation n low high bs
      let c := (toString? (b :: more)).bind fun s => s.toList.head?
      c.getD replacement :: mendedChars (bs.drop more.length)
termination_by bs => bs.length

/-- The text of octets, with a sign in the place of what is no character. -/
def mended (bs : Bytes) : String := String.ofList (mendedChars bs)

/-! ### Numbers as octets -/

/-- The `width` low octets of `n`, most significant first. -/
def bigEndian (width n : Nat) : Bytes :=
  (List.range width).map fun i => UInt8.ofNat (n >>> (8 * (width - 1 - i)))

/-- The `width` low octets of `n`, least significant first. -/
def littleEndian (width n : Nat) : Bytes :=
  (List.range width).map fun i => UInt8.ofNat (n >>> (8 * i))

/-- The number whose octets, most significant first, these are. -/
def ofBigEndian (bs : Bytes) : Nat := bs.foldl (fun n b => n * 256 + b.toNat) 0

/-- The number whose octets, least significant first, these are. -/
def ofLittleEndian (bs : Bytes) : Nat := bs.foldr (fun b n => n * 256 + b.toNat) 0

@[simp] theorem length_bigEndian (width n : Nat) : (bigEndian width n).length = width := by
  simp [bigEndian]

@[simp] theorem length_littleEndian (width n : Nat) : (littleEndian width n).length = width := by
  simp [littleEndian]

/-! ### Blocks and sums -/

/-- The octets cut every `size` octets; the last block may be short. -/
def blocks (size : Nat) (bs : Bytes) : List Bytes :=
  (List.range ((bs.length + size - 1) / size)).map fun i => (bs.drop (size * i)).take size

/-- The octets followed by as many zeros as complete the last block. -/
def padTo (size : Nat) (bs : Bytes) : Bytes :=
  bs ++ List.replicate ((size - bs.length % size) % size) 0

/-- Pieces of one length make a string of that length times their number. -/
theorem length_flatMap {α : Type} (f : α → Bytes) {n : Nat} (h : ∀ a, (f a).length = n) (as : List α) :
    (as.flatMap f).length = as.length * n := by
  induction as with
  | nil => simp
  | cons a as ih => simp only [List.flatMap_cons, List.length_append, h, ih, List.length_cons]; grind

/-- The bitwise sum of two octet strings, cut to the shorter one. -/
def xor (as bs : Bytes) : Bytes := List.zipWith (· ^^^ ·) as bs

@[simp] theorem length_xor (as bs : Bytes) : (xor as bs).length = min as.length bs.length := by
  simp [xor]

/-- Adding the same mask twice gives the octets back. -/
theorem xor_xor (as mask : Bytes) (h : as.length ≤ mask.length) : xor (xor as mask) mask = as := by
  induction as generalizing mask with
  | nil => simp [xor]
  | cons a as ih =>
    cases mask with
    | nil => simp at h
    | cons m mask =>
      have hx := ih mask (by simpa using h)
      have ha : a ^^^ m ^^^ m = a := by rw [UInt8.xor_assoc, UInt8.xor_self, UInt8.xor_zero]
      simp only [xor, List.zipWith_cons_cons, ha] at hx ⊢
      rw [hx]

/-! ### Hexadecimal digits -/

/-- The lower-case digit of a number below sixteen. -/
def hexDigit (n : Nat) : Char := Nat.digitChar n

/-- The value of a hexadecimal digit of either case. -/
def hexValue? (c : Char) : Option Nat :=
  if '0' ≤ c ∧ c ≤ '9' then some (c.toNat - '0'.toNat)
  else if 'a' ≤ c ∧ c ≤ 'f' then some (c.toNat - 'a'.toNat + 10)
  else if 'A' ≤ c ∧ c ≤ 'F' then some (c.toNat - 'A'.toNat + 10)
  else none

def hexPair (b : UInt8) : List Char := [hexDigit (b.toNat / 16), hexDigit (b.toNat % 16)]

def toHex (bs : Bytes) : String := String.ofList (bs.flatMap hexPair)

/-- The octets spelt by pairs of digits; an odd digit or another character is refused. -/
def ofHexDigits? : List Char → Option Bytes
  | [] => some []
  | [_] => none
  | hi :: lo :: rest => do
    let h ← hexValue? hi
    let l ← hexValue? lo
    return UInt8.ofNat (16 * h + l) :: (← ofHexDigits? rest)

/-- The octets a text spells in hexadecimal digits. -/
def ofHex? (s : String) : Option Bytes := ofHexDigits? s.toList

end Bytes

end SessionVault
