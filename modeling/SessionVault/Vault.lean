import SessionVault.Envelope
import SessionVault.Identifier
import SessionVault.Policy
import SessionVault.Program
import SessionVault.Session.Basic

/-!
# Vaults: the life of a session over a store

A vault is an envelope and a policy.  Its calls are programs over a store of texts that is not trusted: what
it holds is sealed with the name of the session as associated data, and says itself which identifier it
belongs to.

* `Vault.create` — a new session, which is not stored;
* `Vault.load` — the session under an identifier, or why there is none that can be used;
* `Vault.resolve` — the same, with a new session in the place of one that cannot be used;
* `Vault.persist`, `Vault.rotate`, `Vault.destroy` — write a session, move it to another identifier, take it
  out of the store.  Each makes at most one request.

The last three are made on a session that others may change at the same time: they read its record once, at
the start, and touch nothing of it but the identifier.

A record whose text is beyond the limits of its cipher, tens of gigabytes, would make `persist` and `rotate` fail
before they ask for anything.  Such records are left out.
-/

namespace SessionVault

/-- What sessions are kept with. -/
structure Vault where
  envelope : Envelope
  policy : Policy

namespace Vault

/-! ### Making a vault -/

/-- A vault over a store with a name, and what is noted of it. -/
def make (envelope : Envelope) (policy : Policy) (backend : String) : Except Misconfiguration (Vault × Note) := do
  policy.check
  let line : Note :=
    ⟨.debug, "Session store initialized",
      [("backend", backend), ("cipher", envelope.cipher.algorithm.name), ("signed", toString envelope.isSigned)]⟩
  return (⟨envelope, policy⟩, line)

def key (v : Vault) (name id : String) : String := v.policy.key name id

/-- The lifetime that is worth writing: a millisecond at least. -/
def writableTtl (expiresAt now : Instant) : Except Failure Duration :=
  match expiresAt.remaining now with
  | some ttl => if 0 < ttl.millis then .ok ttl else .error .expired
  | none => .error .expired

def associated (name : String) : Bytes := Bytes.ofString name

/-- The envelope of a record under a nonce.  A record can always be written, so this fails only where its text is too
long to seal, and no such record is spoken of here (`Cipher.encrypt`). -/
def wrap (v : Vault) (nonce : Bytes) (r : Record) : String := v.envelope.wrap nonce r.render (associated r.name)

/-! ### Finding sessions -/

def create (v : Vault) (name : String) (ttl : Option Duration) : Program Session := do
  let octets ← Program.random Identifier.entropySize
  let now ← Program.now
  return Session.start (Identifier.ofOctets octets) name (v.policy.effectiveTtl ttl) now

/-- The session under an identifier.  One past its expiry is taken out of the store. -/
def load (v : Vault) (name id : String) : Program Session := do
  if !Identifier.isValid id then Program.fail .invalidSessionId
  else
    match ← Program.call (.get (v.key name id)) with
    | none => Program.fail .notFound
    | some text =>
      let r ← Program.ofExcept (v.envelope.read Record.decoder text (associated name))
      if r.id ≠ id ∨ r.name ≠ name then
        Program.log ⟨.warn, "Session record does not match its key", [("session_name", name)]⟩
        Program.fail .invalidData
      else
        let now ← Program.now
        if now.before r.expiresAt then return Session.ofRecord r
        else
          Program.log ⟨.trace, "Removing expired session",
            [("session_name", name), ("session_id", Identifier.shown id)]⟩
          -- The key is deleted whatever is under it by now.
          let _ ← Program.call (.delete (v.key name id))
          Program.fail .expired

/-- The session behind an identifier that came in, or a new one where none can be used. -/
def resolve (v : Vault) (incoming : Option String) (name : String) : Program Session :=
  match incoming.filter (· ≠ "") with
  | none => v.create name none
  | some id => do
    match ← (v.load name id).attempt with
    | .ok s => return s
    | .error f =>
      if f.isContent then
        Program.log ⟨.debug, "No usable session, starting a new one",
          [("session_name", name), ("session_id", Identifier.shown id), ("reason", f.message)]⟩
        v.create name none
      else Program.fail f

/-! ### Keeping sessions -/

/-- Writes the session for as long as it lives. -/
def persist (v : Vault) : Program Unit := do
  let r ← Program.record
  let ttl ← Program.ofExcept (writableTtl r.expiresAt (← Program.now))
  let nonce ← Program.random v.envelope.cipher.algorithm.nonceSize
  let _ ← Program.call (.put (v.key r.name r.id) (v.wrap nonce r) ttl)
  Program.log ⟨.debug, "Session persisted",
    [("session_name", r.name), ("session_id", Identifier.shown r.id), ("ttl_ms", toString ttl.millis)]⟩

/-- Moves the session to a new identifier.  It takes the identifier only once the store has. -/
def rotate (v : Vault) : Program Unit := do
  let r ← Program.record
  let ttl ← Program.ofExcept (writableTtl r.expiresAt (← Program.now))
  let id := Identifier.ofOctets (← Program.random Identifier.entropySize)
  let nonce ← Program.random v.envelope.cipher.algorithm.nonceSize
  -- The text names the new identifier, although the session still has the old one.
  let _ ← Program.call
    (.replace (v.key r.name r.id) (v.key r.name id) (v.wrap nonce { r with id := id }) ttl)
  Program.log ⟨.debug, "Session identifier rotated",
    [("session_name", r.name), ("old_id", Identifier.shown r.id), ("new_id", Identifier.shown id)]⟩
  Program.rename id

def destroy (v : Vault) : Program Unit := do
  let r ← Program.record
  let _ ← Program.call (.delete (v.key r.name r.id))
  Program.log ⟨.debug, "Session destroyed", [("session_name", r.name)]⟩

/-! ### Cookies -/

/-- The cookie that carries the identifier of a session for as long as it lives. -/
def cookieFor (v : Vault) (s : Session) (now : Instant) : Cookie :=
  ⟨s.name, s.id, s.record.expiresAt, ((s.remaining now).map fun d => Cookie.age d.seconds).getD 0, v.policy.cookie⟩

/-- The cookie that makes a browser forget a session. -/
def removalCookie (v : Vault) (name : String) : Cookie := Cookie.removal v.policy.cookie name

end Vault

end SessionVault
