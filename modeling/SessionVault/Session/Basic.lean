import SessionVault.Json.Payload
import SessionVault.Session.Record

/-!
# Sessions: values with a lifetime

A session is a record and the knowledge whether it was found in the store or is new.  Every change sets the
instant of the last update to the clock, which each operation is given; reading changes nothing.

* `Session.start` — a new session; `Session.ofRecord` — one that was found;
* `Session.set`, `Session.remove`, `Session.clear` — changes of the values;
* `Session.refresh`, `Session.extend` — changes of the expiry, counted from the clock or from the old expiry;
* `Session.isExpired`, `Session.remaining` — what is left of the lifetime.
-/

namespace SessionVault

structure Session where
  record : Record
  /-- Whether the session was never found in the store. -/
  isNew : Bool

namespace Session

/-- A new session without values. -/
def start (id name : String) (ttl : Duration) (now : Instant) : Session :=
  ⟨⟨id, name, [], now, now, now.add ttl⟩, true⟩

/-- The session of a record that was found. -/
def ofRecord (r : Record) : Session := ⟨r, false⟩

def id (s : Session) : String := s.record.id

def name (s : Session) : String := s.record.name

def values (s : Session) : Table Json := s.record.values

/-! ### Lifetime -/

/-- Whether the expiry is reached. -/
def isExpired (s : Session) (now : Instant) : Bool := !now.before s.record.expiresAt

def remaining (s : Session) (now : Instant) : Option Duration := s.record.expiresAt.remaining now

/-! ### Values -/

def value? (s : Session) (key : String) : Option Json := s.values.get? key

/-- The value under a key, read as a type; none if it is of another type. -/
def get? {α : Type} (s : Session) (d : Decoder α) (key : String) : Option α := do
  (Json.readAs d (← s.value? key)).toOption

def change (s : Session) (f : Table Json → Table Json) (now : Instant) : Session :=
  { s with record := { s.record with values := f s.record.values, updatedAt := now } }

def set (s : Session) (key : String) (p : Payload) (now : Instant) : Except Failure Session := do
  let v ← p.toJson
  return s.change (·.insert key v) now

/-- Takes a value out; this counts as a change even if there was none. -/
def remove (s : Session) (key : String) (now : Instant) : Session := s.change (·.erase key) now

def clear (s : Session) (now : Instant) : Session := s.change (fun _ => []) now

/-! ### Expiry -/

/-- Sets the expiry to `ttl` from now. -/
def refresh (s : Session) (ttl : Duration) (now : Instant) : Session :=
  { s with record := { s.record with expiresAt := now.add ttl, updatedAt := now } }

/-- Moves the expiry `delta` further. -/
def extend (s : Session) (delta : Duration) (now : Instant) : Session :=
  { s with record := { s.record with expiresAt := s.record.expiresAt.add delta, updatedAt := now } }

/-! ### Identity -/

def withId (s : Session) (id : String) : Session := { s with record := { s.record with id := id } }

/-! ### Laws -/

@[simp] theorem id_withId (s : Session) (id : String) : (s.withId id).id = id := rfl

end Session

end SessionVault
