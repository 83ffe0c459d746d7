/-!
# Notes: what a run tells about itself

A note is a line of a log: its level, its message and its fields in the order they are given in.
-/

namespace SessionVault

/-- How important a note is. -/
inductive Level where
  | trace
  | debug
  | info
  | warn
deriving DecidableEq

def Level.name : Level → String
  | trace => "TRACE"
  | debug => "DEBUG"
  | info => "INFO"
  | warn => "WARN"

/-- A line of a log. -/
structure Note where
  level : Level
  message : String
  fields : List (String × String) := []
deriving DecidableEq

def Note.text (n : Note) : String :=
  n.level.name ++ " " ++ n.message ++ String.join (n.fields.map fun (k, v) => " " ++ k ++ "=" ++ v)

end SessionVault
