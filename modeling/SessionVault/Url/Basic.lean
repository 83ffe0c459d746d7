import SessionVault.Url.Percent

/-!
# URLs: their parts and their text

A URL has a scheme and a path, and perhaps a host with a user and a port in front of the path, and a query and
a fragment behind it.  Its parts are kept as they are written, with what they cannot hold hidden.

* `Url.text` — the text of a URL;
* `Url.withUsername?`, `Url.withPassword?` — the URL with a user, where it has a host to log in to;
* `Url.withNumber` — the URL with a number as its path.
-/

namespace SessionVault

/-- The path of a URL: one text that means nothing to a URL, or segments that each follow a slash. -/
inductive UrlPath where
  | plain (text : String)
  | segments (parts : List String)
deriving DecidableEq

structure Url where
  scheme : String
  username : String := ""
  /-- The password; an empty one is none. -/
  password : String := ""
  /-- The host, which may be empty; none where the URL has no place for one. -/
  host : Option String := none
  port : Option Nat := none
  /-- Whether a segment that means nothing keeps the path apart from the scheme. -/
  apart : Bool := false
  path : UrlPath := .segments []
  query : Option String := none
  fragment : Option String := none
deriving DecidableEq

namespace Url

/-! ### Schemes -/

/-- The ports that the schemes for the web have by default. -/
def defaultPort? : String → Option Nat
  | "http" | "ws" => some 80
  | "https" | "wss" => some 443
  | "ftp" => some 21
  | _ => none

/-- Whether a scheme is one for the web, files included. -/
def isSpecial (scheme : String) : Bool := scheme == "file" || (defaultPort? scheme).isSome

/-! ### Text -/

def pathText : UrlPath → String
  | .plain text => text
  | .segments parts => String.join (parts.map ("/" ++ ·))

/-- The user in front of the host. -/
def userinfo (u : Url) : String :=
  if u.username = "" ∧ u.password = "" then ""
  else u.username ++ (if u.password = "" then "" else ":" ++ u.password) ++ "@"

/-- The text between the scheme and the path. -/
def authority (u : Url) : String :=
  match u.host with
  | some host =>
    "//" ++ u.userinfo ++ host ++ (match u.port with
      | some port => ":" ++ toString port
      | none => "")
  | none => if u.apart then "/." else ""

/-- A part behind a mark, if it is there. -/
def marked (mark : String) : Option String → String
  | some part => mark ++ part
  | none => ""

def text (u : Url) : String :=
  u.scheme ++ ":" ++ u.authority ++ pathText u.path ++ marked "?" u.query ++ marked "#" u.fragment

/-! ### Hosts -/

def host? (u : Url) : Option String := u.host.filter (· ≠ "")

/-- Whether a URL has a host that one could log in to. -/
def admitsUser (u : Url) : Bool := u.host?.isSome && u.scheme != "file"

/-! ### Changes -/

/-- A name or a password as a URL holds it. -/
def hideUser (s : String) : String := String.ofList (percentEncode inUserinfo s.toList)

def withUsername? (u : Url) (name : String) : Option Url :=
  if u.admitsUser then some { u with username := hideUser name } else none

def withPassword? (u : Url) (password : String) : Option Url :=
  if u.admitsUser then some { u with password := hideUser password } else none

/-- The URL with a number as its path. -/
def withNumber (u : Url) (n : Nat) : Url :=
  match u.path with
  | .plain _ => { u with path := .plain ("%2F" ++ toString n) }
  | .segments _ => { u with path := .segments [toString n] }

end Url

end SessionVault
