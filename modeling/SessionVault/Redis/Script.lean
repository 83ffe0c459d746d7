import SessionVault.Bytes
import SessionVault.Digest.Sha1

/-!
# Scripts: commands that a server runs in one step

A script is a list of commands whose words may stand for the keys and the arguments that it is run with.  A
server keeps a script under the digest of its text, and runs it when it is given the digest.

* `Script.text` — the text of a script;
* `Script.digest` — what a server knows it by;
* `Script.commands` — the commands that it runs on keys and arguments;
* `Script.rotation` — writes the second key and deletes the first one, in this order.
-/

namespace SessionVault.Redis

/-- A word of a command in a script; keys and arguments are counted from one. -/
inductive Word where
  | text (s : String)
  | key (n : Nat)
  | argument (n : Nat)
deriving DecidableEq

/-- A script: its commands and the number that it returns. -/
structure Script where
  calls : List (List Word)
  result : Int
deriving DecidableEq

namespace Word

def shown : Word → String
  | text s => "\"" ++ s ++ "\""
  | key n => "KEYS[" ++ toString n ++ "]"
  | argument n => "ARGV[" ++ toString n ++ "]"

/-- A word where the keys and the arguments are known; nothing stands for a missing one. -/
def value (keys arguments : List String) : Word → String
  | text s => s
  | key n => (keys[n - 1]?).getD ""
  | argument n => (arguments[n - 1]?).getD ""

end Word

namespace Script

def line (call : List Word) : String :=
  "redis.call(" ++ String.intercalate ", " (call.map Word.shown) ++ ")\n"

def text (s : Script) : String :=
  "\n" ++ String.join (s.calls.map line) ++ "return " ++ toString s.result ++ "\n"

/-- What a server knows a script by. -/
def digest (s : Script) : String := (Digest.sha1 (Bytes.ofString s.text)).toHex

/-- The commands of a script on keys and arguments. -/
def commands (s : Script) (keys arguments : List String) : List (List String) :=
  s.calls.map fun call => call.map (Word.value keys arguments)

/-- Writes the second key for as many milliseconds as the second argument says, and deletes the first key. -/
def rotation : Script :=
  ⟨[[.text "SET", .key 2, .argument 1, .text "PX", .argument 2], [.text "DEL", .key 1]], 1⟩

/-- What the rotation runs. -/
theorem commands_rotation (old new value millis : String) :
    rotation.commands [old, new] [value, millis] = [["SET", new, value, "PX", millis], ["DEL", old]] := rfl

end Script

end SessionVault.Redis
