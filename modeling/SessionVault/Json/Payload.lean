import SessionVault.Failure
import SessionVault.Json.Value

/-!
# Payloads: what programs put into sessions and envelopes

A payload is a value of a program's own types.  It becomes JSON in two ways.  `Payload.encode` writes its text
at once, with maps in the order they are given in and integers of any size; `Payload.toJson` makes a value of
it, whose integers have to fit 64 bits and whose reals all have the 64-bit format.  In both a real that is not
finite is null, and a key has to be something that can be written as a string.
-/

namespace SessionVault

open Floating

inductive PayloadKey where
  | string (s : String)
  | integer (n : Int)
  | bool (b : Bool)
  /-- A list, which no string stands for. -/
  | list

/-- A value of a program's own types. -/
inductive Payload where
  | unit
  | bool (b : Bool)
  | integer (n : Int)
  /-- A real of a format; none is one that is not finite. -/
  | real (f : Format) (x : Option Binary)
  | string (s : String)
  | list (items : List Payload)
  | map (members : List (PayloadKey × Payload))
  /-- A value that is JSON already. -/
  | json (v : Json)

namespace PayloadKey

/-- The string a key is written as. -/
def text : PayloadKey → Except Failure String
  | string s => .ok s
  | integer n => .ok (Number.int n).text
  | bool b => .ok (toString b)
  | list => .error (.serialization "key must be a string")

end PayloadKey

/-! ### Integer keys -/

/-- Puts a value under an integer key, in the order of the keys. -/
def insertInteger {α : Type} (n : Int) (v : α) : List (Int × α) → List (Int × α)
  | [] => [(n, v)]
  | (m, w) :: rest =>
    if n < m then (n, v) :: (m, w) :: rest
    else if n = m then (n, v) :: rest
    else (m, w) :: insertInteger n v rest

/-- Pairs in the order of their integer keys; the last value of a repeated key stays. -/
def sortIntegers {α : Type} (es : List (Int × α)) : List (Int × α) :=
  es.foldl (fun acc (n, v) => insertInteger n v acc) []

namespace Payload

/-- A map with integer keys, in their order. -/
def integers (es : List (Int × Int)) : Payload :=
  .map ((sortIntegers es).map fun (n, v) => (.integer n, .integer v))

/-! ### Text -/

mutual

def encode : Payload → Except Failure Bytes
  | .unit => .ok (Json.render .null)
  | .bool b => .ok (Json.render (.bool b))
  | .integer n => .ok (Json.render (.int n))
  | .real _ none => .ok (Json.render .null)
  | .real f (some x) => .ok (Bytes.ofString (realText f x))
  | .string s => .ok (Json.quote s)
  | .list items => do return 0x5b :: (← encodeItems items) ++ [0x5d]
  | .map members => do return 0x7b :: (← encodeMembers members) ++ [0x7d]
  | .json v => .ok v.render

def encodeItems : List Payload → Except Failure Bytes
  | [] => .ok []
  | [p] => encode p
  | p :: rest => do return (← encode p) ++ 0x2c :: (← encodeItems rest)

def encodeMembers : List (PayloadKey × Payload) → Except Failure Bytes
  | [] => .ok []
  | [(k, p)] => do return Json.quote (← k.text) ++ 0x3a :: (← encode p)
  | (k, p) :: rest => do return Json.quote (← k.text) ++ 0x3a :: (← encode p) ++ 0x2c :: (← encodeMembers rest)

end

/-! ### Value -/

/-- Whether an integer fits 64 bits, signed or unsigned. -/
def fits (n : Int) : Bool := -0x8000000000000000 ≤ n && n < 0x10000000000000000

def widen (x : Binary) : Option Binary := binary64.round x.negative x.magnitude

mutual

def toJson : Payload → Except Failure Json
  | .unit => .ok .null
  | .bool b => .ok (.bool b)
  | .integer n => if fits n then .ok (.int n) else .error (.serialization "number out of range")
  | .real _ none => .ok .null
  | .real _ (some x) => .ok (Json.optional (fun y => .number (.real y)) (widen x))
  | .string s => .ok (.string s)
  | .list items => do return .array (← toJsonItems items)
  | .map members => do return .object (← toJsonMembers members)
  | .json v => .ok v

def toJsonItems : List Payload → Except Failure (List Json)
  | [] => .ok []
  | p :: rest => do return (← toJson p) :: (← toJsonItems rest)

/-- The table of the members; the last value of a repeated key stays. -/
def toJsonMembers : List (PayloadKey × Payload) → Except Failure (Table Json)
  | [] => .ok []
  | (k, p) :: rest => do
    let key ← k.text
    let v ← toJson p
    let table ← toJsonMembers rest
    return if table.has key then table else table.insert key v

end

end Payload

end SessionVault
