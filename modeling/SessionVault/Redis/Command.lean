import SessionVault.Redis.Script

/-!
# Commands: what is sent to a server

A command is a list of words: its name and its arguments.  A lifetime is given in milliseconds, in decimal
digits.
-/

namespace SessionVault.Redis

/-- A command, word by word. -/
abbrev Command := List String

namespace Command

/-! ### Texts under keys -/

def get (key : String) : Command := ["GET", key]

def put (key text : String) (millis : Nat) : Command := ["PSETEX", key, toString millis, text]

def delete (key : String) : Command := ["DEL", key]

/-! ### Scripts and transactions -/

/-- Runs a script that the server knows. -/
def runScript (s : Script) (keys arguments : List String) : Command :=
  ["EVALSHA", s.digest, toString keys.length] ++ keys ++ arguments

/-- Makes a script known to the server. -/
def loadScript (s : Script) : Command := ["SCRIPT", "LOAD", s.text]

def start : Command := ["MULTI"]

def commit : Command := ["EXEC"]

/-! ### Connections -/

def logIn (username : Option String) (password : String) : Command := "AUTH" :: username.toList ++ [password]

def select (database : Int) : Command := ["SELECT", toString database]

/-- Asks for a sign of life. -/
def ping : Command := ["PING"]

def nameConnection (name : String) : Command := ["CLIENT", "SETNAME", name]

end Command

end SessionVault.Redis
