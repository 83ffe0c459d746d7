import SessionVault.Program
import SessionVault.Redis.Exchange

/-!
# Stores on a server

A store on a server asks a request by an exchange.  A replacement has to happen in one step, and there are two
ways to have that: a script or a transaction (`Rotation`).  Both write the new key before they delete the old
one.

* `Store.exchange` — the exchange of a request;
* `Store.answer` — the answer to a request over a peer, and what is noted of it;
* `lifetime` — the milliseconds that a server is given for a lifetime: one at least, and 64 bits at most.
-/

namespace SessionVault.Redis

/-- How a replacement is made to happen in one step. -/
inductive Rotation where
  | script
  | transaction
deriving DecidableEq

def Rotation.name : Rotation → String
  | script => "Script"
  | transaction => "Transaction"

structure Store where
  /-- The longest time that a request may take. -/
  timeout : Duration := .ofSeconds 5
  rotation : Rotation := .script
deriving DecidableEq

/-! ### Lifetimes -/

/-- The milliseconds that a server is given for a lifetime. -/
def lifetime (ttl : Duration) : Nat := max 1 (min 0xFFFFFFFFFFFFFFFF ttl.millis)

theorem lifetime_pos (ttl : Duration) : 0 < lifetime ttl := by
  unfold lifetime
  omega

theorem lifetime_le (ttl : Duration) : lifetime ttl ≤ 0xFFFFFFFFFFFFFFFF := by
  unfold lifetime
  omega

/-- A lifetime of a millisecond or more that fits 64 bits is given as it is. -/
theorem lifetime_eq_millis {ttl : Duration} (h : 0 < ttl.millis) (h' : ttl.millis ≤ 0xFFFFFFFFFFFFFFFF) :
    lifetime ttl = ttl.millis := by
  unfold lifetime
  omega

namespace Store

def name : String := "redis"

/-! ### Requests -/

/-- Writes a new key and deletes an old one, in one step. -/
def replace (s : Store) (old new text : String) (millis : Nat) : Exchange Unit :=
  match s.rotation with
  | .script => do
    let _ ← Exchange.script Script.rotation [old, new] [text, toString millis] Answer.number?
    return ()
  -- A transaction deletes the old key even if the write in front has failed.
  | .transaction => Exchange.transaction [Command.put new text millis, Command.delete old]

def exchange (s : Store) : Request → Exchange (Option String)
  | .get key => Exchange.ask (Command.get key) Answer.text?
  | .put key text ttl => do
    Exchange.ask (Command.put key text (lifetime ttl)) Answer.accepted
    return none
  | .delete key => do
    Exchange.ask (Command.delete key) Answer.accepted
    return none
  | .replace old new text ttl => do
    s.replace old new text (lifetime ttl)
    return none

def notes (s : Store) : Request → List Note
  | .replace .. => [⟨.debug, "Rotating session key", [("strategy", s.rotation.name)]⟩]
  | _ => []

/-- The answer to a request over a peer, the state of the peer after it and what is noted of it. -/
def answer {σ : Type} (s : Store) (peer : Peer σ) (state : σ) (r : Request) : Reply × σ × List Note :=
  let (result, state) := (s.exchange r).run peer state
  (result.mapError Fault.failure, state, s.notes r)

end Store

end SessionVault.Redis
