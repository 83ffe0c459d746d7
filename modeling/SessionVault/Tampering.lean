import SessionVault.Base64

/-!
# Tampering: changes that the owner of a store can make to a text

An edit changes a stored text without any key.  Some edits change the octets that the text spells and spell
them again, others change the spelling itself.  An index counts from the start, or from the end when it is
negative, and goes round.
-/

namespace SessionVault

/-- A change of a stored text. -/
inductive Edit where
  | none
  | flip (index : Int) (mask : UInt8)
  /-- Keeps so many octets. -/
  | keep (n : Nat)
  | dropHead (n : Nat)
  | append (bs : Bytes)
  | prepend (bs : Bytes)
  | swap (i j : Int)
  /-- Keeps so many characters. -/
  | keepChars (n : Nat)
  | appendText (s : String)
  | prependText (s : String)
  /-- Takes the padding off. -/
  | unpad
  /-- Writes the two last symbols of the alphabet as a URL would. -/
  | urlSafe
  /-- Changes the lowest bit of the last symbol. -/
  | bumpLast

namespace Edit

/-- The octets of sextets; bits that fill no octet are left out. -/
def octetsOf : List Nat → Bytes
  | w :: x :: y :: z :: rest =>
    UInt8.ofNat (w * 4 + x / 16) :: UInt8.ofNat (x % 16 * 16 + y / 4) :: UInt8.ofNat (y % 4 * 64 + z) ::
      octetsOf rest
  | [w, x, y] => [UInt8.ofNat (w * 4 + x / 16), UInt8.ofNat (x % 16 * 16 + y / 4)]
  | [w, x] => [UInt8.ofNat (w * 4 + x / 16)]
  | _ => []

/-- The octets that a text spells up to the first character outside the alphabet. -/
def spelled (text : String) : Bytes :=
  octetsOf ((text.toList.map (Base64.value? Base64.standard)).takeWhile Option.isSome |>.filterMap id)

/-- The place that an index names among `n`. -/
def place (n : Nat) (i : Int) : Nat := (i % n).toNat

def flipAt (bs : Bytes) (i : Int) (mask : UInt8) : Bytes := bs.modify (place bs.length i) (· ^^^ mask)

def swapAt (bs : Bytes) (i j : Int) : Bytes :=
  let i := place bs.length i
  let j := place bs.length j
  (bs.set i (bs.getD j 0)).set j (bs.getD i 0)

/-- The symbols with the lowest bit of the last one before the padding changed. -/
def bump (text : String) : String :=
  let cs := text.toList.reverse
  let padding := cs.takeWhile (· = '=')
  match cs.dropWhile (· = '=') with
  | [] => text
  | c :: rest =>
    match Base64.value? Base64.standard c with
    | some n => String.ofList (padding ++ Base64.symbol Base64.standard (n ^^^ 1) :: rest).reverse
    | .none => text

def urlSymbol (c : Char) : Char := if c = '+' then '-' else if c = '/' then '_' else c

def apply (text : String) : Edit → String
  | none => text
  | flip i mask => Base64.encode (flipAt (spelled text) i mask)
  | keep n => Base64.encode ((spelled text).take n)
  | dropHead n => Base64.encode ((spelled text).drop n)
  | append bs => Base64.encode (spelled text ++ bs)
  | prepend bs => Base64.encode (bs ++ spelled text)
  | swap i j => Base64.encode (swapAt (spelled text) i j)
  | keepChars n => String.ofList (text.toList.take n)
  | appendText s => text ++ s
  | prependText s => s ++ text
  | unpad => String.ofList (text.toList.filter (· ≠ '='))
  | urlSafe => String.ofList (text.toList.map urlSymbol)
  | bumpLast => bump text

end Edit

end SessionVault
