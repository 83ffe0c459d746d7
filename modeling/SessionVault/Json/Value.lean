import SessionVault.Bytes
import SessionVault.Table
import SessionVault.Floating.Shortest

/-!
# JSON values and their text

A value is what session data is made of.  A number is an integer, kept exactly, or a number of the 64-bit
binary format.  The members of an object are a table, so a value has one text, which `Json.render` writes
without blanks: members in the order of their keys, strings with the fewest escapes, reals with the fewest
digits that read back (`realLayout`).
-/

namespace SessionVault

open Floating

/-! ### Values -/

inductive Number where
  | int (n : Int)
  | real (x : Binary)
deriving DecidableEq

inductive Json where
  | null
  | bool (b : Bool)
  | number (n : Number)
  | string (s : String)
  | array (items : List Json)
  | object (members : List (String × Json))

namespace Json

def int (n : Int) : Json := .number (.int n)

def nat (n : Nat) : Json := .int n

def texts (ss : List String) : Json := .array (ss.map .string)

/-- An optional value, null when there is none. -/
def optional {α : Type} (f : α → Json) : Option α → Json
  | none => .null
  | some a => f a

mutual

/-- How deeply arrays and objects are nested in a value. -/
def depth : Json → Nat
  | .array items => itemsDepth items + 1
  | .object members => membersDepth members + 1
  | _ => 0

def itemsDepth : List Json → Nat
  | [] => 0
  | v :: rest => max (depth v) (itemsDepth rest)

def membersDepth : List (String × Json) → Nat
  | [] => 0
  | (_, v) :: rest => max (depth v) (membersDepth rest)

end

end Json

/-! ### Text -/

/-- Reals are written positionally while the decimal exponent is between -5 and 15, those of the 32-bit format
while it is between -6 and 12. -/
def realLayout (f : Format) : Layout := if f.precision ≤ binary32.precision then ⟨-6, 12⟩ else ⟨-5, 15⟩

def realText (f : Format) (x : Binary) : String := (realLayout f).writeBinary f x

def Number.text : Number → String
  | .int n => String.ofList (if n < 0 then '-' :: digitsOf n.natAbs else digitsOf n.natAbs)
  | .real x => realText binary64 x

namespace Json

/-- The escape of one octet of a string: quotes, backslashes and control characters have one, all other
octets stand for themselves. -/
def escapeByte (b : UInt8) : Bytes :=
  if b = 0x22 then [0x5c, 0x22]
  else if b = 0x5c then [0x5c, 0x5c]
  else if b = 0x08 then [0x5c, 0x62]
  else if b = 0x0c then [0x5c, 0x66]
  else if b = 0x0a then [0x5c, 0x6e]
  else if b = 0x0d then [0x5c, 0x72]
  else if b = 0x09 then [0x5c, 0x74]
  else if b < 0x20 then Bytes.ofString "\\u00" ++ (Bytes.hexPair b).map fun c => UInt8.ofNat c.toNat
  else [b]

/-- A string between quotes. -/
def quote (s : String) : Bytes := 0x22 :: (Bytes.ofString s).flatMap escapeByte ++ [0x22]

mutual

def render : Json → Bytes
  | .null => Bytes.ofString "null"
  | .bool true => Bytes.ofString "true"
  | .bool false => Bytes.ofString "false"
  | .number n => Bytes.ofString n.text
  | .string s => quote s
  | .array items => 0x5b :: renderItems items ++ [0x5d]
  | .object members => 0x7b :: renderMembers members ++ [0x7d]

def renderItems : List Json → Bytes
  | [] => []
  | [v] => render v
  | v :: rest => render v ++ 0x2c :: renderItems rest

def renderMembers : List (String × Json) → Bytes
  | [] => []
  | [(k, v)] => quote k ++ 0x3a :: render v
  | (k, v) :: rest => quote k ++ 0x3a :: (render v ++ 0x2c :: renderMembers rest)

end

def text (v : Json) : String := (Bytes.toString? v.render).getD ""

end Json

end SessionVault
