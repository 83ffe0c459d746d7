import SessionVault.Json.Literal
import SessionVault.Json.Numeral

/-!
# Trees: JSON texts as they are written

A tree is what a JSON text says before anything is made of it: strings are kept as they are written, objects
keep every member in the order of the text, and every node knows where it stands.  Whether a number is in range
and a string has a meaning is asked only where the text is decoded, so a member that nobody reads may hold a
number that is too large or half of a surrogate pair, and may be nested as deeply as it likes.

* `Tree.read?` — the tree of a whole text, with blanks allowed around every part;
* `Tree.ofJson` — the tree of a value, as its text would give it;
* `Span` — the place of a node, told by what follows in the text.
-/

namespace SessionVault

/-- The place of a part of a text. -/
structure Span where
  /-- The text from the first octet of the part on. -/
  start : Bytes
  /-- The text behind the part. -/
  stop : Bytes

structure Key where
  span : Span
  pieces : List Piece

def Key.text? (k : Key) : Option String := Literal.text? k.pieces

/-- A JSON text as it is written. -/
inductive Tree where
  | null (span : Span)
  | bool (span : Span) (b : Bool)
  /-- A number, or none where it is beyond the largest real. -/
  | number (span : Span) (n : Option Number)
  | string (span : Span) (pieces : List Piece)
  | array (span : Span) (items : List Tree)
  | object (span : Span) (members : List (Key × Tree))

namespace Tree

def span : Tree → Span
  | null s | bool s _ | number s _ | string s _ | array s _ | object s _ => s

/-! ### Reading -/

def isBlank (b : UInt8) : Bool := b == 0x20 || b == 0x09 || b == 0x0a || b == 0x0d

/-- The text behind the blanks at its front. -/
def skip (bs : Bytes) : Bytes := bs.dropWhile isBlank

/-- The text behind a word at its front. -/
def word? : Bytes → Bytes → Option Bytes
  | [], bs => some bs
  | _ :: _, [] => none
  | w :: ws, b :: bs => if w = b then word? ws bs else none

mutual

/-- The value at the front of a text, and the rest; `fuel` bounds the number of nested calls. -/
def value? : Nat → Bytes → Option (Tree × Bytes)
  | 0, _ => none
  | _ + 1, [] => none
  | fuel + 1, b :: bs =>
    if b = 0x5b then do
      match word? [0x5d] (skip bs) with
      | some rest => return (.array ⟨b :: bs, rest⟩ [], rest)
      | none =>
        let (items, rest) ← items? fuel bs
        return (.array ⟨b :: bs, rest⟩ items, rest)
    else if b = 0x7b then do
      match word? [0x7d] (skip bs) with
      | some rest => return (.object ⟨b :: bs, rest⟩ [], rest)
      | none =>
        let (members, rest) ← members? fuel bs
        return (.object ⟨b :: bs, rest⟩ members, rest)
    else if b = 0x22 then do
      let (pieces, rest) ← Literal.scan? bs
      return (.string ⟨b :: bs, rest⟩ pieces, rest)
    else if b = 0x6e then do
      let rest ← word? (Bytes.ofString "ull") bs
      return (.null ⟨b :: bs, rest⟩, rest)
    else if b = 0x74 then do
      let rest ← word? (Bytes.ofString "rue") bs
      return (.bool ⟨b :: bs, rest⟩ true, rest)
    else if b = 0x66 then do
      let rest ← word? (Bytes.ofString "alse") bs
      return (.bool ⟨b :: bs, rest⟩ false, rest)
    else do
      let (n, rest) ← Numeral.scan? (b :: bs)
      return (.number ⟨b :: bs, rest⟩ n.value?, rest)

/-- The items of an array up to its end, at least one. -/
def items? : Nat → Bytes → Option (List Tree × Bytes)
  | 0, _ => none
  | fuel + 1, bs => do
    let (t, rest) ← value? fuel (skip bs)
    match skip rest with
    | [] => none
    | b :: rest =>
      if b = 0x2c then
        let (ts, rest) ← items? fuel rest
        return (t :: ts, rest)
      else if b = 0x5d then return ([t], rest)
      else none

/-- The members of an object up to its end, at least one. -/
def members? : Nat → Bytes → Option (List (Key × Tree) × Bytes)
  | 0, _ => none
  | fuel + 1, bs => do
    let bs := skip bs
    let (pieces, behind) ← Literal.scan? (← word? [0x22] bs)
    let (t, rest) ← value? fuel (skip (← word? [0x3a] (skip behind)))
    let member : Key × Tree := (⟨⟨bs, behind⟩, pieces⟩, t)
    match skip rest with
    | [] => none
    | b :: rest =>
      if b = 0x2c then
        let (ms, rest) ← members? fuel rest
        return (member :: ms, rest)
      else if b = 0x7d then return ([member], rest)
      else none

end

def read? (text : Bytes) : Option Tree := do
  let (t, rest) ← value? (2 * text.length + 2) (skip text)
  if skip rest = [] then some t else none

/-! ### Trees of values -/

/-- The place of a part that stands in no text. -/
def nowhere : Span := ⟨[], []⟩

mutual

def ofJson : Json → Tree
  | .null => .null nowhere
  | .bool b => .bool nowhere b
  | .number n => .number nowhere (some n)
  | .string s => .string nowhere (Literal.ofText s)
  | .array items => .array nowhere (ofItems items)
  | .object members => .object nowhere (ofMembers members)

def ofItems : List Json → List Tree
  | [] => []
  | v :: rest => ofJson v :: ofItems rest

def ofMembers : List (String × Json) → List (Key × Tree)
  | [] => []
  | (k, v) :: rest => (⟨nowhere, Literal.ofText k⟩, ofJson v) :: ofMembers rest

end

end Tree

end SessionVault
