import SessionVault.Failure
import SessionVault.Text.Natural
import SessionVault.Url.Query
import SessionVault.Url.Reader

/-!
# Targets: where a URL leads

A target is what a connection needs to know of a URL: the host and the port, the number of the database in the
path, and who logs in.  The client reads it from the URL, and refuses a URL that it can make nothing of
(`Target.ofUrl`).
-/

namespace SessionVault.Redis

/-- Where a connection leads. -/
structure Target where
  host : String
  port : Nat
  database : Int
  username : Option String
  password : Option String
deriving DecidableEq

namespace Target

def defaultPort : Nat := 6379

/-- A URL that the client refuses. -/
def refusal (description : String) (detail : Option String) : ClientFault :=
  .reported .invalidClientConfig description detail

def trimmed (path : String) : List Char :=
  let front := path.toList.dropWhile (· == '/')
  (front.reverse.dropWhile (· == '/')).reverse

/-- The number of the database that a path names; the first one is number zero. -/
def databaseOf (path : String) : Except ClientFault Int :=
  match trimmed path with
  | [] => .ok 0
  | cs =>
    match Natural.readSigned? 64 (String.ofList cs) with
    | some n => .ok n
    | none => .error (refusal "Invalid database number" none)

/-- A name or a password as it is meant; an empty one is none. -/
def userPart (s : String) (description : String) : Except ClientFault (Option String) :=
  if s = "" then .ok none
  else
    match Bytes.toString? (Url.percentDecode (Bytes.ofString s)) with
    | some s => .ok (some s)
    | none => .error (refusal description none)

/-- The versions of the protocol that the query of a URL may name. -/
def protocols : List String := ["2", "resp2", "3", "resp3"]

/-- Refuses a version of the protocol that there is none of. -/
def checkProtocol (u : Url) : Except ClientFault Unit :=
  match u.parameter? "protocol" with
  | none => .ok ()
  | some version =>
    if (protocols.map Bytes.ofString).contains version then .ok ()
    else .error (refusal "Invalid protocol version" (some (Bytes.mended version)))

/-- The target of a URL.  There is no connection with TLS. -/
def ofUrl (u : Url) : Except ClientFault Target := do
  match u.host? with
  | none => .error (refusal "Missing hostname" none)
  | some host =>
    if u.scheme = "rediss" then .error (refusal "can't connect with TLS, the feature is not enabled" none)
    let database ← databaseOf (Url.pathText u.path)
    let username ← userPart u.username "Username is not valid UTF-8 string"
    let password ← userPart u.password "Password is not valid UTF-8 string"
    checkProtocol u
    return ⟨host, u.port.getD defaultPort, database, username, password⟩

def ofText (text : String) : Except ClientFault Target :=
  match Url.read text with
  | .ok u => ofUrl u
  | .error _ => .error (refusal "Redis URL did not parse" none)

end Target

end SessionVault.Redis
