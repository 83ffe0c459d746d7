import SessionVault.Json.Tree
import SessionVault.Text.Quoted

/-!
# Decoders: typed values from trees

A decoder reads a value of one type from a tree, or says what is wrong and where (`Fault`).  Its first argument
is the number of nested arrays and objects that it may still enter.

* `Decoder.json`, `Decoder.string`, `Decoder.integer`, … — one decoder for each kind of value;
* `Decoder.record` — a structure: an object that has each of its fields at most once, in any order and with
  other members between, or an array of its fields in their order;
* `decode` — a whole text, nested at most `maxDepth` deep.

Faults are found in the order of the text: a fault in a member wins over a field that is missing.
-/

namespace SessionVault

open Floating

/-! ### Faults -/

/-- Why a text does not decode. -/
inductive Cause where
  | malformed
  | mismatch (found expected : String)
  | badValue (found expected : String)
  | badLength (length : Nat) (expected : String)
  | missing (field : String)
  | duplicate (field : String)
  | unknownVariant (variant : String)
  | trailing
  | tooDeep
  | outOfRange
  | notText
  | notNumericKey
  | rejected (reason : String)

def Cause.message : Cause → String
  | malformed => "expected value"
  | mismatch found expected => "invalid type: " ++ found ++ ", expected " ++ expected
  | badValue found expected => "invalid value: " ++ found ++ ", expected " ++ expected
  | badLength n expected => "invalid length " ++ toString n ++ ", expected " ++ expected
  | missing field => "missing field `" ++ field ++ "`"
  | duplicate field => "duplicate field `" ++ field ++ "`"
  | unknownVariant v => "unknown variant `" ++ v ++ "`"
  | trailing => "trailing characters"
  | tooDeep => "recursion limit exceeded"
  | outOfRange => "number out of range"
  | notText => "invalid unicode code point"
  | notNumericKey => "invalid value: expected key to be a number in quotes"
  | rejected reason => reason

/-- Why a text does not decode, and what stands behind the place where that was found. -/
structure Fault where
  cause : Cause
  behind : Bytes

/-- The line, and the octets before the place in that line. -/
def Fault.place (f : Fault) (text : Bytes) : Nat × Nat :=
  let before := text.take (text.length - f.behind.length)
  (before.count 0x0a + 1, (before.reverse.takeWhile (· ≠ 0x0a)).length)

def Fault.message (f : Fault) (text : Bytes) : String :=
  let (line, column) := f.place text
  f.cause.message ++ " at line " ++ toString line ++ " column " ++ toString column

/-- Reads a value, at most so many levels deep. -/
abbrev Decoder (α : Type) := Nat → Tree → Except Fault α

/-! ### Found and expected -/

/-- What a node is called in a fault. -/
def Tree.kind : Tree → String
  | .null _ => "null"
  | .bool _ b => "boolean `" ++ toString b ++ "`"
  | .number _ (some (.int n)) => "integer `" ++ (Number.int n).text ++ "`"
  | .number _ (some (.real x)) => "floating point `" ++ (Number.real x).text ++ "`"
  | .number _ none => "number"
  | .string _ pieces => "string " ++ Quoted.ofString ((Literal.text? pieces).getD "")
  | .array _ _ => "sequence"
  | .object _ _ => "map"

/-- Where a node of the wrong kind is reported: behind a scalar, in front of an array or an object. -/
def Tree.reported : Tree → Bytes
  | .array s _ | .object s _ => s.start
  | t => t.span.stop

namespace Decoder

variable {α β : Type}

/-- A node of the wrong kind; a number or a string without a meaning is reported as such. -/
def mismatch (t : Tree) (expected : String) : Except Fault α :=
  match t with
  | .number s none => .error ⟨.outOfRange, s.stop⟩
  | .string s pieces =>
    match Literal.text? pieces with
    | none => .error ⟨.notText, s.stop⟩
    | some _ => .error ⟨.mismatch t.kind expected, t.reported⟩
  | t => .error ⟨.mismatch t.kind expected, t.reported⟩

/-- One level down into an array or an object. -/
def enter (depth : Nat) (s : Span) (f : Nat → Except Fault α) : Except Fault α :=
  match depth with
  | 0 => .error ⟨.tooDeep, s.start.drop 1⟩
  | depth + 1 => f depth

/-- A decoder followed by a function that cannot fail. -/
def map (f : α → β) (d : Decoder α) : Decoder β := fun depth t => (d depth t).map f

/-! ### Scalars -/

def literal (s : Span) (pieces : List Piece) : Except Fault String :=
  match Literal.text? pieces with
  | some text => .ok text
  | none => .error ⟨.notText, s.stop⟩

def key (k : Key) : Except Fault String := literal k.span k.pieces

def string : Decoder String
  | _, .string s pieces => literal s pieces
  | _, t => mismatch t "a string"

/-- A string that spells a value. -/
def spelled (expected : String) (f : String → Except String α) : Decoder α
  | _, .string s pieces => do
    match f (← literal s pieces) with
    | .ok a => .ok a
    | .error reason => .error ⟨.rejected reason, s.stop⟩
  | _, t => mismatch t expected

def bool : Decoder Bool
  | _, .bool _ b => .ok b
  | _, t => mismatch t "a boolean"

def unit : Decoder Unit
  | _, .null _ => .ok ()
  | _, t => mismatch t "unit"

/-- An integer between two bounds. -/
def integer (least greatest : Int) (expected : String) : Decoder Int
  | _, t@(.number s (some (.int n))) =>
    if least ≤ n ∧ n ≤ greatest then .ok n else .error ⟨.badValue t.kind expected, s.stop⟩
  | _, t => mismatch t expected

/-- An integer of so many bits without a sign. -/
def unsigned (bits : Nat) : Decoder Nat :=
  map Int.toNat (integer 0 (Nat.pow 2 bits - 1 : Nat) ("u" ++ toString bits))

/-- An integer of so many bits with a sign. -/
def signed (bits : Nat) : Decoder Int :=
  integer (-(Nat.pow 2 (bits - 1) : Nat)) (Nat.pow 2 (bits - 1) - 1 : Nat) ("i" ++ toString bits)

/-- The real nearest to an integer. -/
def realOfInt (n : Int) : Option Binary := binary64.round (n < 0) ⟨n.natAbs, 1⟩

/-- A real; an integer is taken as the nearest one. -/
def real : Decoder Binary
  | _, .number _ (some (.real x)) => .ok x
  | _, t@(.number s (some (.int n))) =>
    match realOfInt n with
    | some x => .ok x
    | none => .error ⟨.badValue t.kind "f64", s.stop⟩
  | _, t => mismatch t "f64"

/-- A string of one character. -/
def char : Decoder Char
  | _, t@(.string s pieces) => do
    match (← literal s pieces).toList with
    | [c] => .ok c
    | _ => .error ⟨.badValue t.kind "a character", s.stop⟩
  | _, t => mismatch t "a character"

/-- Null, or a value. -/
def optional (d : Decoder α) : Decoder (Option α)
  | _, .null _ => .ok none
  | depth, t => (d depth t).map some

/-- One of a list of names, alone or as the only key of an object with a null under it. -/
def variant (names : List (String × α)) : Decoder α
  | _, .string s pieces => do
    let name ← literal s pieces
    match names.lookup name with
    | some a => .ok a
    | none => .error ⟨.unknownVariant name, s.stop⟩
  | depth, .object s [(k, t)] =>
    enter depth s fun depth => do
      let name ← key k
      match names.lookup name with
      | some a => do
        unit depth t
        .ok a
      | none => .error ⟨.unknownVariant name, k.span.stop⟩
  | _, t => .error ⟨.malformed, t.span.start⟩

/-! ### Arrays and objects -/

def list (d : Decoder α) : Decoder (List α)
  | depth, .array s items => enter depth s fun depth => items.mapM (d depth)
  | _, t => mismatch t "a sequence"

/-- The members of an object under keys of some type, in the order of the text. -/
def members (readKey : Key → Except Fault β) (d : Decoder α) : Decoder (List (β × α))
  | depth, .object s ms =>
    enter depth s fun depth => ms.mapM fun (k, t) => do return (← readKey k, ← d depth t)
  | _, t => mismatch t "a map"

/-- The members of an object; the last value of a repeated key stays. -/
def table (d : Decoder α) : Decoder (Table α) := map Table.ofList (members key d)

mutual

def json : Decoder Json
  | _, .null _ => .ok .null
  | _, .bool _ b => .ok (.bool b)
  | _, .number _ (some n) => .ok (.number n)
  | _, .number s none => .error ⟨.outOfRange, s.stop⟩
  | _, .string s pieces => (literal s pieces).map .string
  | 0, .array s _ => .error ⟨.tooDeep, s.start.drop 1⟩
  | depth + 1, .array _ items => (jsonItems depth items).map .array
  | 0, .object s _ => .error ⟨.tooDeep, s.start.drop 1⟩
  | depth + 1, .object _ ms => (jsonMembers depth ms []).map .object

def jsonItems (depth : Nat) : List Tree → Except Fault (List Json)
  | [] => .ok []
  | t :: ts => do
    let v ← json depth t
    return v :: (← jsonItems depth ts)

/-- Any values under their keys, put into a table. -/
def jsonMembers (depth : Nat) : List (Key × Tree) → Table Json → Except Fault (Table Json)
  | [], acc => .ok acc
  | (k, t) :: ms, acc => do
    let name ← key k
    let v ← json depth t
    jsonMembers depth ms (acc.insert name v)

end

/-! ### Structures -/

/-- A field of a structure that is read into a draft `σ`. -/
structure Field (σ : Type) where
  name : String
  /-- Whether the draft has the field. -/
  has : σ → Bool
  /-- Reads the field into the draft. -/
  read : Nat → Tree → σ → Except Fault σ
  /-- Whether an array may end before the field. -/
  defaulted : Bool := false

variable {σ : Type}

/-- The field that a decoder reads and a setter stores. -/
def Field.of (name : String) (has : σ → Bool) (d : Decoder α) (set : σ → α → σ) : Field σ :=
  ⟨name, has, fun depth t draft => (d depth t).map (set draft), false⟩

/-- Reads the members of an object into a draft: a field may come once, and other members are skipped. -/
def readMembers (fields : List (Field σ)) (depth : Nat) : List (Key × Tree) → σ → Except Fault σ
  | [], draft => .ok draft
  | (k, t) :: ms, draft => do
    let name ← key k
    match fields.find? (·.name = name) with
    | none => readMembers fields depth ms draft
    | some field =>
      if field.has draft then .error ⟨.duplicate field.name, k.span.stop⟩
      else readMembers fields depth ms (← field.read depth t draft)

/-- Reads the items of an array into a draft, a field for each; `index` fields are read already. -/
def readItems (expected : String) (stop : Bytes) (depth : Nat) :
    List (Field σ) → List Tree → Nat → σ → Except Fault σ
  | [], [], _, draft => .ok draft
  | [], t :: _, _, _ => .error ⟨.trailing, t.span.start.drop 1⟩
  | field :: fields, [], index, draft =>
    if field.defaulted then readItems expected stop depth fields [] (index + 1) draft
    else .error ⟨.badLength index expected, stop⟩
  | field :: fields, t :: ts, index, draft => do
    readItems expected stop depth fields ts (index + 1) (← field.read depth t draft)

/-- A structure.  `finish` makes it from the draft, or names the first field that is missing. -/
def record (name : String) (fields : List (Field σ)) (empty : σ) (finish : σ → Except String α) : Decoder α
  | depth, .object s ms =>
    enter depth s fun depth => do
      match finish (← readMembers fields depth ms empty) with
      | .ok a => .ok a
      | .error field => .error ⟨.missing field, s.stop⟩
  | depth, .array s items =>
    enter depth s fun depth => do
      let expected := "struct " ++ name ++ " with " ++ toString fields.length ++
        if fields.length = 1 then " element" else " elements"
      match finish (← readItems expected s.stop depth fields items 0 empty) with
      | .ok a => .ok a
      | .error field => .error ⟨.missing field, s.stop⟩
  | _, t => mismatch t ("struct " ++ name)

/-- The value of a field that has to be there. -/
def required (name : String) : Option α → Except String α
  | some a => .ok a
  | none => .error name

end Decoder

/-! ### Whole texts -/

/-- How deeply arrays and objects may be nested in a text. -/
def maxDepth : Nat := 127

/-- The value that a text holds. -/
def decode {α : Type} (d : Decoder α) (text : Bytes) : Except Fault α :=
  match Tree.read? text with
  | some t => d maxDepth t
  | none => .error ⟨.malformed, []⟩

/-- The value that a string holds. -/
def decodeString {α : Type} (d : Decoder α) (text : String) : Except Fault α := decode d (Bytes.ofString text)

/-- A value read again as another type, however deeply it is nested. -/
def Json.readAs {α : Type} (d : Decoder α) (v : Json) : Except Fault α := d (v.depth + 1) (Tree.ofJson v)

end SessionVault
