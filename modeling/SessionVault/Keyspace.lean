import SessionVault.Note
import SessionVault.Program
import SessionVault.Table

/-!
# Keyspaces: a store in memory

A keyspace holds texts that expire.  An entry that is past its expiry is never shown; it is dropped when
somebody asks for it, and every 64th write drops all such entries at once, so that entries nobody asks for do
not pile up.

* `Keyspace.answerAt` — the answer to a request, the keyspace after it and what is noted, and `Keyspace.answer` where
  it reads the clock but once;
* `Keyspace.live` — the entries that are not past their expiry;
* `Keyspace.sweep` — drops the entries that are.
-/

namespace SessionVault

/-- A stored text. -/
structure Entry where
  text : String
  expiresAt : Instant

/-- Whether an entry is not past its expiry. -/
def Entry.isLive (e : Entry) (now : Instant) : Bool := now.before e.expiresAt

/-- A store in memory. -/
structure Keyspace where
  entries : Table Entry := []
  /-- The number of writes so far. -/
  writes : Nat := 0

namespace Keyspace

def name : String := "memory"

def sweepInterval : Nat := 64

/-! ### Views -/

def live (k : Keyspace) (now : Instant) : Table Entry := k.entries.filter fun e => e.2.isLive now

/-- The number of entries that are not past their expiry. -/
def size (k : Keyspace) (now : Instant) : Nat := (k.live now).length

def isEmpty (k : Keyspace) (now : Instant) : Bool := k.size now == 0

/-- Whether there is an entry under a key that is not past its expiry. -/
def contains (k : Keyspace) (key : String) (now : Instant) : Bool :=
  (k.entries.get? key).any fun e => e.isLive now

/-- The text under a key, be it past its expiry or not. -/
def raw? (k : Keyspace) (key : String) : Option String := (k.entries.get? key).map Entry.text

/-! ### Changes -/

/-- Puts another text in the place of the one under a key; whether there is one. -/
def overwrite (k : Keyspace) (key text : String) : Bool × Keyspace :=
  match k.entries.get? key with
  | some e => (true, { k with entries := k.entries.insert key { e with text := text } })
  | none => (false, k)

/-- Drops the entries that are past their expiry; how many these are, and what is noted of it. -/
def sweep (k : Keyspace) (now : Instant) : Nat × Keyspace × List Note :=
  let kept := k.live now
  let removed := k.entries.length - kept.length
  let line : Note :=
    ⟨.debug, "Cleaned up expired entries", [("removed", toString removed), ("remaining", toString kept.length)]⟩
  (removed, { k with entries := kept }, if removed = 0 then [] else [line])

/-- Counts a write; every so many of them the keyspace is swept. -/
def countWrite (k : Keyspace) (now : Instant) : Keyspace × List Note :=
  let k := { k with writes := k.writes + 1 }
  if k.writes % sweepInterval = 0 then (k.sweep now).2 else (k, [])

/-- The keyspace with an entry put under a key. -/
def store (k : Keyspace) (key : String) (e : Entry) : Keyspace := { k with entries := k.entries.insert key e }

def drop (k : Keyspace) (key : String) : Keyspace := { k with entries := k.entries.erase key }

/-! ### Requests -/

/-- The answer to a request, the keyspace after it and what is noted of it.  A write is counted behind the request,
and the clock is read again for that. -/
def answerAt (k : Keyspace) (now later : Instant) : Request → Reply × Keyspace × List Note
  | .get key =>
    match k.entries.get? key with
    | none => (.ok none, k, [])
    | some e =>
      if e.isLive now then (.ok (some e.text), k, [])
      else (.ok none, k.drop key, [⟨.trace, "Dropping expired entry", []⟩])
  | .put key text ttl => (.ok none, (k.store key ⟨text, now.add ttl⟩).countWrite later)
  | .delete key => (.ok none, k.drop key, [])
  | .replace old new text ttl =>
    let k := k.store new ⟨text, now.add ttl⟩
    -- A key that is replaced by itself stays.
    (.ok none, (if old = new then k else k.drop old).countWrite later)

/-- The answer to a request where the clock stands still meanwhile. -/
def answer (k : Keyspace) (now : Instant) (r : Request) : Reply × Keyspace × List Note := k.answerAt now now r

end Keyspace

end SessionVault
