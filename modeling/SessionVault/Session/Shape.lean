import SessionVault.Json.Payload
import SessionVault.Session.Record

/-!
# Shapes: the types that stored values are read as

A shape names a type of values.  `Shape.decoder` reads a value of that type, and gives it back as JSON whose
members stand in the order of the type: fields as they are declared, integer keys by their size.
-/

namespace SessionVault

/-- A type of values. -/
inductive Shape where
  | value
  | string
  | bool
  | unsigned (bits : Nat)
  | signed (bits : Nat)
  | real
  | char
  | unit
  | optionalString
  | strings
  | integerMap
  | cart
  | record
deriving DecidableEq

namespace Shape

/-! ### Maps with integer keys -/

/-- The digits of a key that is written without escapes, with the sign in front. -/
def keyNumeral? (k : Key) : Option Number := do
  let bs ← k.pieces.mapM fun
    | .octet b => some b
    | .unit _ => none
  match ← Numeral.scan? bs with
  | (n, []) => n.value?
  | _ => none

def integerKey (k : Key) : Except Fault Int :=
  match keyNumeral? k with
  | some (.int n) =>
    if -0x8000000000000000 ≤ n ∧ n < 0x8000000000000000 then .ok n else .error ⟨.notNumericKey, k.span.stop⟩
  | _ => .error ⟨.notNumericKey, k.span.stop⟩

def integerMapDecoder : Decoder Json :=
  (Decoder.members integerKey (Decoder.signed 64)).map fun ms =>
    .object ((sortIntegers ms).map fun (n, v) => ((Number.int n).text, .int v))

/-! ### Carts -/

structure Cart where
  items : List String
  totalCents : Nat

/-- The fields of a cart read so far. -/
structure CartDraft where
  items : Option (List String) := none
  totalCents : Option Nat := none

def cartDecoder : Decoder Cart :=
  Decoder.record "Cart"
    [.of "items" (·.items.isSome) (Decoder.list Decoder.string) fun d v => { d with items := some v },
      .of "total_cents" (·.totalCents.isSome) (Decoder.unsigned 64) fun d v => { d with totalCents := some v }]
    ({} : CartDraft)
    fun d => do return ⟨← Decoder.required "items" d.items, ← Decoder.required "total_cents" d.totalCents⟩

def Cart.toJson (c : Cart) : Json := .object [("items", Json.texts c.items), ("total_cents", .nat c.totalCents)]

/-! ### Decoders -/

def decoder : Shape → Decoder Json
  | value => Decoder.json
  | string => Decoder.string.map .string
  | bool => Decoder.bool.map .bool
  | unsigned bits => (Decoder.unsigned bits).map .nat
  | signed bits => (Decoder.signed bits).map .int
  | real => Decoder.real.map fun x => .number (.real x)
  | char => Decoder.char.map fun c => .string (String.singleton c)
  | unit => Decoder.unit.map fun _ => .null
  | optionalString => (Decoder.optional Decoder.string).map (Json.optional .string)
  | strings => (Decoder.list Decoder.string).map Json.texts
  | integerMap => integerMapDecoder
  | cart => cartDecoder.map Cart.toJson
  | record => Record.decoder.map Record.sorted

end Shape

end SessionVault
