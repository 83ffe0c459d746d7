import SessionVault.Json.Decoder
import SessionVault.Policy
import SessionVault.Redis.Fault
import SessionVault.Url.Reader

/-!
# Redis configurations

A configuration names a server by a URL and says who logs in there, which database is used and how long
anything may take.

* `Config.ofChanges` — the configuration that a list of changes makes of another;
* `Config.settingsChanges` — the changes that settings by name ask for;
* `Config.check` — what is wrong with a configuration, if anything;
* `Config.connectionUrl` — the URL with the user and the database in it;
* `Config.toJson`, `Config.decoder` — its form as JSON, where both times are whole seconds.

Asking for TLS changes the scheme of the URL that the configuration has at that moment, and of no later one.
-/

namespace SessionVault.Redis

/-- How a server is reached. -/
structure Config where
  url : String := "redis://localhost:6379"
  connectionTimeout : Duration := .ofSeconds 5
  commandTimeout : Duration := .ofSeconds 5
  database : Option Nat := none
  username : Option String := none
  password : Option String := none
  tls : Bool := false
  connectionName : Option String := none
deriving DecidableEq

inductive Change where
  | url (s : String)
  | connectionTimeout (d : Duration)
  | commandTimeout (d : Duration)
  | database (n : Nat)
  | username (s : String)
  | password (s : String)
  | tls (on : Bool)
  | connectionName (s : String)

/-- What is wrong with a configuration. -/
inductive ConfigFault where
  | badUrl (fault : UrlFault)
  | badScheme
  | noHost
  | zeroCommandTimeout
  | noPlaceForUsername
  | noPlaceForPassword
deriving DecidableEq

def ConfigFault.message : ConfigFault → String
  | badUrl fault => "invalid Redis URL: " ++ fault.message
  | badScheme => "Redis URL must start with redis:// or rediss://"
  | noHost => "Redis URL has no host"
  | zeroCommandTimeout => "command timeout must be greater than zero"
  | noPlaceForUsername => "cannot set username on URL"
  | noPlaceForPassword => "cannot set password on URL"

def ConfigFault.fault (f : ConfigFault) : Fault := .config f.message

namespace Config

/-! ### Changes -/

/-- The characters that a plain URL starts with. -/
def plainStart : List Char := "redis://".toList

/-- The URL with TLS, if it starts as a plain one. -/
def withTls (url : String) : String :=
  if plainStart.isPrefixOf url.toList then
    "rediss://" ++ String.ofList (url.toList.drop plainStart.length)
  else url

def change (c : Config) : Change → Config
  | .url s => { c with url := s }
  | .connectionTimeout d => { c with connectionTimeout := d }
  | .commandTimeout d => { c with commandTimeout := d }
  | .database n => { c with database := some n }
  | .username s => { c with username := some s }
  | .password s => { c with password := some s }
  -- Only the URL that is set by now is changed.
  | .tls on => { c with tls := on, url := if on then withTls c.url else c.url }
  | .connectionName s => { c with connectionName := some s }

/-- The configuration that changes make of another. -/
def ofChanges (c : Config) (changes : List Change) : Config := changes.foldl change c

/-- The changes that settings ask for, in the order they are made. -/
def settingsChanges (settings : Table String) : List Change :=
  let change {α : Type} (name : String) (read : String → Option α) (make : α → Change) : List Change :=
    (((settings.get? name).bind read).map make).toList
  change "REDIS_URL" some .url ++ change "REDIS_DATABASE" (Natural.read? 8) .database ++
    change "REDIS_USERNAME" some .username ++ change "REDIS_PASSWORD" some .password ++
    change "REDIS_TLS" (fun s => some (Policy.isOn s)) .tls ++
    change "REDIS_COMMAND_TIMEOUT_SECS" (Natural.read? 64) fun n => .commandTimeout (.ofSeconds n)

/-! ### Checks -/

def parsed (c : Config) : Except ConfigFault Url := (Url.read c.url).mapError .badUrl

/-- What is wrong with a configuration, if anything. -/
def check (c : Config) : Except ConfigFault Unit := do
  let url ← c.parsed
  if url.scheme ≠ "redis" ∧ url.scheme ≠ "rediss" then .error .badScheme
  else if url.host?.isNone then .error .noHost
  else if c.commandTimeout.isZero then .error .zeroCommandTimeout
  else .ok ()

/-- The URL with the name and the password of the user.  A name without a password stays out of it. -/
def withUser (c : Config) (url : Url) : Except ConfigFault Url :=
  match c.password with
  | none => .ok url
  | some password => do
    let url ← match c.username with
      | none => .ok url
      | some username =>
        match url.withUsername? username with
        | some url => .ok url
        | none => .error .noPlaceForUsername
    match url.withPassword? password with
    | some url => .ok url
    | none => .error .noPlaceForPassword

def withDatabase (c : Config) (url : Url) : Url :=
  match c.database with
  | none => url
  | some n => url.withNumber n

def connectionUrl (c : Config) : Except ConfigFault String := do
  return (c.withDatabase (← c.withUser (← c.parsed))).text

/-! ### JSON -/

def toJson (c : Config) : Json :=
  .object [("url", .string c.url), ("connection_timeout", .nat c.connectionTimeout.seconds),
    ("command_timeout", .nat c.commandTimeout.seconds), ("database", Json.optional .nat c.database),
    ("username", Json.optional .string c.username), ("password", Json.optional .string c.password),
    ("tls", .bool c.tls), ("connection_name", Json.optional .string c.connectionName)]

/-- The fields read so far. -/
structure Draft where
  url : Option String := none
  connectionTimeout : Option Duration := none
  commandTimeout : Option Duration := none
  database : Option (Option Nat) := none
  username : Option (Option String) := none
  password : Option (Option String) := none
  tls : Option Bool := none
  connectionName : Option (Option String) := none

/-- The configuration of a draft.  The URL and the flag for TLS may not be missing. -/
def ofDraft (d : Draft) : Except String Config := do
  let base : Config := {}
  return ⟨← Decoder.required "url" d.url, d.connectionTimeout.getD base.connectionTimeout,
    d.commandTimeout.getD base.commandTimeout, d.database.getD none, d.username.getD none, d.password.getD none,
    ← Decoder.required "tls" d.tls, d.connectionName.getD none⟩

def secondsDecoder : Decoder Duration := (Decoder.unsigned 64).map .ofSeconds

/-- The fields of a configuration.  The times may be missing. -/
def fields : List (Decoder.Field Draft) :=
  [.of "url" (·.url.isSome) Decoder.string fun d v => { d with url := some v },
    { Decoder.Field.of "connection_timeout" (·.connectionTimeout.isSome) secondsDecoder
        fun (d : Draft) v => { d with connectionTimeout := some v } with defaulted := true },
    { Decoder.Field.of "command_timeout" (·.commandTimeout.isSome) secondsDecoder
        fun (d : Draft) v => { d with commandTimeout := some v } with defaulted := true },
    .of "database" (·.database.isSome) (Decoder.optional (Decoder.unsigned 8))
      fun d v => { d with database := some v },
    .of "username" (·.username.isSome) (Decoder.optional Decoder.string) fun d v => { d with username := some v },
    .of "password" (·.password.isSome) (Decoder.optional Decoder.string) fun d v => { d with password := some v },
    .of "tls" (·.tls.isSome) Decoder.bool fun d v => { d with tls := some v },
    .of "connection_name" (·.connectionName.isSome) (Decoder.optional Decoder.string)
      fun d v => { d with connectionName := some v }]

def decoder : Decoder Config := Decoder.record "RedisConfig" fields {} ofDraft

end Config

end SessionVault.Redis
