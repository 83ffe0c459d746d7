import SessionVault.Json.Decoder
import SessionVault.Time.Rfc3339

/-!
# Records: what is stored of a session

A record is a session without the knowledge whether it was stored before: its identifier, its name, its values
under their keys and three instants.  `Record.render` is the text that is sealed, with the fields in their
order; `Record.decoder` reads it back, together with every other spelling of the same fields.
-/

namespace SessionVault

/-- What is stored of a session. -/
structure Record where
  id : String
  name : String
  values : Table Json
  createdAt : Instant
  updatedAt : Instant
  expiresAt : Instant

namespace Record

/-! ### Writing -/

def instant (t : Instant) : Json := .string t.rfc3339

/-- The fields in the order that they are stored in. -/
def toJson (r : Record) : Json :=
  .object [("id", .string r.id), ("name", .string r.name), ("values", .object r.values),
    ("created_at", instant r.createdAt), ("updated_at", instant r.updatedAt), ("expires_at", instant r.expiresAt)]

/-- The fields in the order of their names. -/
def sorted (r : Record) : Json :=
  .object [("created_at", instant r.createdAt), ("expires_at", instant r.expiresAt), ("id", .string r.id),
    ("name", .string r.name), ("updated_at", instant r.updatedAt), ("values", .object r.values)]

def render (r : Record) : Bytes := r.toJson.render

/-! ### Reading -/

/-- An instant in RFC 3339. -/
def instantDecoder : Decoder Instant :=
  Decoder.spelled "an RFC 3339 formatted date and time string" fun text =>
    (Rfc3339.read text).mapError TimeFault.message

/-- The fields of a record read so far. -/
structure Draft where
  id : Option String := none
  name : Option String := none
  values : Option (Table Json) := none
  createdAt : Option Instant := none
  updatedAt : Option Instant := none
  expiresAt : Option Instant := none

/-- The fields of a record.  The values may be missing. -/
def fields : List (Decoder.Field Draft) :=
  [.of "id" (·.id.isSome) Decoder.string fun d v => { d with id := some v },
    .of "name" (·.name.isSome) Decoder.string fun d v => { d with name := some v },
    { Decoder.Field.of "values" (·.values.isSome) (Decoder.table Decoder.json)
        fun (d : Draft) v => { d with values := some v } with defaulted := true },
    .of "created_at" (·.createdAt.isSome) instantDecoder fun d v => { d with createdAt := some v },
    .of "updated_at" (·.updatedAt.isSome) instantDecoder fun d v => { d with updatedAt := some v },
    .of "expires_at" (·.expiresAt.isSome) instantDecoder fun d v => { d with expiresAt := some v }]

def ofDraft (d : Draft) : Except String Record := do
  return ⟨← Decoder.required "id" d.id, ← Decoder.required "name" d.name, d.values.getD [],
    ← Decoder.required "created_at" d.createdAt, ← Decoder.required "updated_at" d.updatedAt,
    ← Decoder.required "expires_at" d.expiresAt⟩

def decoder : Decoder Record := Decoder.record "SessionRecord" fields {} ofDraft

end Record

end SessionVault
