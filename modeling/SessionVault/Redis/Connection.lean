import SessionVault.Redis.Config
import SessionVault.Redis.Store
import SessionVault.Redis.Target

/-!
# Connections: from a configuration to a store

A configuration is checked before anything is sent.  Then the server is called, and a greeting follows: who
logs in, which database is meant, a sign of life, and a name for the connection.  All of this together may take
the connection timeout; a server that cannot be reached in that time is one that never answers.

* `Config.target` — where a configuration leads, or what is wrong with it;
* `Target.greet` — what is sent before anything else;
* `Config.connect` — the store on the server, and what is noted of it.
-/

namespace SessionVault.Redis

/-- A place to call servers from: which ones can be reached, and how they answer. -/
structure Network (σ : Type) where
  reaches : Target → Bool
  peer : Peer σ

/-- A place that no server can be reached from. -/
def Network.isolated (σ : Type) : Network σ := ⟨fun _ => false, fun _ s => (.silence, s)⟩

namespace Target

/-- Logs in, where there is a password. -/
def logIn (t : Target) : Exchange Unit :=
  match t.password with
  | none => return ()
  | some password => Exchange.ask (Command.logIn t.username password) Answer.accepted

/-- Chooses the database, where it is not the first. -/
def choose (t : Target) : Exchange Unit :=
  if t.database = 0 then return () else Exchange.ask (Command.select t.database) Answer.accepted

/-- What is sent before anything else. -/
def greet (t : Target) (name : Option String) : Exchange Unit := do
  t.logIn
  t.choose
  let _ ← Exchange.ask Command.ping Answer.text
  match name with
  | none => return ()
  | some name => Exchange.ask (Command.nameConnection name) Answer.accepted

end Target

namespace Config

/-- Where a configuration leads. -/
def target (c : Config) : Except Fault Target := do
  c.check.mapError ConfigFault.fault
  let url ← c.connectionUrl.mapError ConfigFault.fault
  (Target.ofText url).mapError fun f => .config f.message

def shownDatabase : Option Nat → String
  | none => "None"
  | some n => "Some(" ++ toString n ++ ")"

def notes (c : Config) : List Note :=
  (c.connectionName.map fun name => ⟨.debug, "Redis connection named", [("connection_name", name)]⟩).toList ++
    [⟨.info, "Redis connection established", [("url", c.url), ("database", shownDatabase c.database)]⟩,
      ⟨.info, "Redis session backend ready", [("url", c.url)]⟩]

/-- The store on the server that a configuration names, and what is noted of it. -/
def connect {σ : Type} (c : Config) (network : Network σ) (state : σ) : Except Fault (Store × List Note) × σ :=
  match c.target with
  | .error f => (.error f, state)
  | .ok target =>
    if network.reaches target then
      let (result, state) := (target.greet c.connectionName).run network.peer state
      (result.map fun _ => ({ timeout := c.commandTimeout }, c.notes), state)
    else (.error .timeout, state)

end Config

end SessionVault.Redis
