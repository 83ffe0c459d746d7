import SessionVault.Url.Basic
import SessionVault.Url.Host

/-!
# Reading URLs

`Url.read` reads a text that starts with a scheme.  Blanks and control characters around the text and line
breaks and tabs inside it are passed over.  A scheme for the web always has a host and takes a backslash for a
slash; any other scheme has one only behind two slashes.

The text is taken apart from the front: the scheme, the user and the host up to the first slash, the path, the
query behind a question mark and the fragment behind a hash sign.
-/

namespace SessionVault.Url

/-! ### Cutting -/

/-- Whether a character belongs to no URL at its ends. -/
def isPadding (c : Char) : Bool := c.toNat ≤ 0x20

/-- The text without what belongs to no URL. -/
def clean (cs : List Char) : List Char :=
  let cs := ((cs.dropWhile isPadding).reverse.dropWhile isPadding).reverse
  cs.filter fun c => c ≠ '\t' ∧ c ≠ '\n' ∧ c ≠ '\r'

/-- The text in front of the first character of a kind, and the rest from it on. -/
def breakAt (stop : Char → Bool) (cs : List Char) : List Char × List Char :=
  (cs.takeWhile fun c => !stop c, cs.dropWhile fun c => !stop c)

/-- Whether a character may follow the first letter of a scheme. -/
def isSchemeChar (c : Char) : Bool := c.isAlphanum || c == '+' || c == '-' || c == '.'

/-- The scheme, in lower case, and what follows its colon. -/
def scheme? (cs : List Char) : Option (String × List Char) :=
  match cs with
  | [] => none
  | c :: _ =>
    if !c.isAlpha then none
    else
      match breakAt (fun c => !isSchemeChar c) cs with
      | (name, ':' :: rest) => some (String.ofList (name.map Char.toLower), rest)
      | _ => none

/-- Whether a character ends the part of a URL that names the host. -/
def endsAuthority (special : Bool) (c : Char) : Bool :=
  c == '/' || c == '?' || c == '#' || (special && c == '\\')

/-! ### Users -/

/-- The texts in front of the last `@` and behind it. -/
def breakLastAt (cs : List Char) : Option (List Char × List Char) :=
  match breakAt (· == '@') cs.reverse with
  | (_, []) => none
  | (back, _ :: front) => some (front.reverse, back.reverse)

def readUser (cs : List Char) : String × String :=
  let (name, rest) := breakAt (· == ':') cs
  (hideUser (String.ofList name), hideUser (String.ofList (rest.drop 1)))

/-! ### Hosts and ports -/

/-- Whether a character ends a host, outside brackets. -/
def endsHost (special : Bool) (c : Char) : Bool := c == ':' || endsAuthority special c

/-- The text of a host and the rest; a colon inside brackets belongs to the host. -/
def hostText (special : Bool) : Bool → List Char → List Char × List Char
  | _, [] => ([], [])
  | inside, c :: rest =>
    if (c == ':' && !inside) || endsAuthority special c then ([], c :: rest)
    else
      let (host, rest) := hostText special (if c == '[' then true else if c == ']' then false else inside) rest
      (c :: host, rest)

/-- The port behind a colon; one that the scheme has by default is left out. -/
def readPort (scheme : String) (cs : List Char) : Except UrlFault (Option Nat × List Char) :=
  let ds := cs.takeWhile Char.isDigit
  let rest := cs.drop ds.length
  let n := ds.foldl (fun n c => n * 10 + (c.toNat - 48)) 0
  if 65535 < n then .error .badPort
  else
    let port := if ds.isEmpty ∨ some n = defaultPort? scheme then none else some n
    match rest with
    | [] => .ok (port, [])
    | c :: _ => if endsAuthority true c then .ok (port, rest) else .error .badPort

def readHost (scheme : String) (cs : List Char) : Except UrlFault (String × Option Nat × List Char) := do
  let special := isSpecial scheme
  let (name, rest) := hostText special false cs
  if special ∧ name = [] then .error .emptyHost
  let host ← if special then readDomain name else readName name
  match rest with
  | ':' :: rest =>
    if host = "" then .error .emptyHost
    let (port, rest) ← readPort scheme rest
    return (host, port, rest)
  | rest => return (host, none, rest)

/-! ### Paths -/

/-- Whether a segment stays where it is. -/
def isSingleDot (s : List Char) : Bool := s.map Char.toLower ∈ [".".toList, "%2e".toList]

/-- Whether a segment goes one up. -/
def isDoubleDot (s : List Char) : Bool :=
  s.map Char.toLower ∈ ["..".toList, "%2e.".toList, ".%2e".toList, "%2e%2e".toList]

/-- Whether a segment names a drive. -/
def isDrive (s : List Char) : Bool :=
  match s with
  | [c, d] => c.isAlpha && (d == ':' || d == '|')
  | _ => false

def startsWithDrive (s : List Char) : Bool := isDrive (s.takeWhile (· ≠ '\\'))

/-- The segments one up, the last one first; from a drive there is no way up. -/
def goUp : List String → List String
  | [] => []
  | segment :: acc => if startsWithDrive segment.toList then segment :: acc else acc

/-- The segments so far, the last one first, after one more. -/
def pushSegment (isFile : Bool) (acc : List String) (segment : List Char) (last : Bool) : List String :=
  if isDoubleDot segment then
    let acc := goUp acc
    if last then "" :: acc else acc
  else if isSingleDot segment then if last then "" :: acc else acc
  else if isFile ∧ acc = [] ∧ isDrive segment then String.ofList [segment.headD 'C', ':'] :: acc
  else String.ofList (percentEncode inPath segment) :: acc

/-- The segments, the last one first, after some more. -/
def pushSegments (isFile : Bool) : List String → List (List Char) → List String
  | acc, [] => acc
  | acc, [segment] => pushSegment isFile acc segment true
  | acc, segment :: rest => pushSegments isFile (pushSegment isFile acc segment false) rest

def readSegments (scheme : String) (cs : List Char) : List String :=
  let isFile := scheme == "file"
  let separator (c : Char) : Bool := c == '/' || (isSpecial scheme && c == '\\')
  (pushSegments isFile [] (cut separator cs)).reverse

/-- A path without the slash of either kind in front of it. -/
def dropSlash : List Char → List Char
  | [] => []
  | c :: rest => if c == '/' || c == '\\' then rest else c :: rest

def readPath (scheme : String) (cs : List Char) : UrlPath :=
  if isSpecial scheme then .segments (readSegments scheme (dropSlash cs))
  else
    match cs with
    | [] => .segments []
    | '/' :: rest => .segments (readSegments scheme rest)
    | cs => .segments (readSegments scheme cs)

/-! ### Queries and fragments -/

def readTail (scheme : String) (cs : List Char) : Option String × Option String :=
  let hide (set : UInt8 → Bool) (cs : List Char) : String := String.ofList (percentEncode set cs)
  let (front, back) := breakAt (· == '#') cs
  let query := match front with
    | [] => none
    | _ :: query => some (hide (if isSpecial scheme then inSpecialQuery else inQuery) query)
  let fragment := match back with
    | [] => none
    | _ :: fragment => some (hide inFragment fragment)
  (query, fragment)

def endsPath (c : Char) : Bool := c == '?' || c == '#'

/-! ### URLs -/

/-- A URL behind the two slashes in front of its host. -/
def readAuthority (scheme : String) (cs : List Char) : Except UrlFault Url := do
  let special := isSpecial scheme
  let (front, back) := breakAt (endsAuthority special) cs
  -- A sign in front of the last one belongs to the user.
  let (user, rest) ← match breakLastAt front with
    | none => .ok (("", ""), cs)
    | some ([], host) =>
      if host = [] ∧ back ≠ [] then .error .emptyHost else .ok (("", ""), host ++ back)
    | some (user, host) => .ok (readUser user, host ++ back)
  let (host, port, rest) ← readHost scheme rest
  if host = "" ∧ user ≠ ("", "") then .error .emptyHost
  let (path, tail) := breakAt endsPath rest
  let (query, fragment) := readTail scheme tail
  return ⟨scheme, user.1, user.2, some host, port, false, readPath scheme path, query, fragment⟩

/-- The host of a file, and the rest: a drive is no host, and `localhost` is none either. -/
def readFileHost (cs : List Char) : Except UrlFault (String × List Char) := do
  let (name, rest) := breakAt (endsAuthority true) cs
  if isDrive name then return ("", cs)
  else if name = [] then return ("", rest)
  else
    let host ← readDomain name
    return (if host = "localhost" then "" else host, rest)

/-- Whether the segments of a path start with a drive. -/
def onDrive : List String → Bool
  | [] => false
  | segment :: _ => isDrive segment.toList

/-- Segments of a file without the empty ones in front. -/
def trimSegments (segments : List String) : List String :=
  match segments.dropWhile (· == "") with
  | [] => [""]
  | segments => segments

/-- The URL of a file.  A path that starts with a drive leaves no place for a host. -/
def readFile (cs : List Char) : Except UrlFault Url := do
  let isSlash (c : Char) : Bool := c == '/' || c == '\\'
  let (host, rest) ← match cs with
    | a :: b :: rest => if isSlash a && isSlash b then readFileHost rest else .ok ("", cs)
    | cs => .ok ("", cs)
  let (path, tail) := breakAt endsPath rest
  let segments := readSegments "file" (dropSlash path)
  let host := if onDrive segments then "" else host
  let path := .segments (trimSegments segments)
  let (query, fragment) := readTail "file" tail
  return ⟨"file", "", "", some host, none, false, path, query, fragment⟩

def startsWithHole : UrlPath → Bool
  | .segments ("" :: _ :: _) => true
  | _ => false

/-- The URL of a scheme that is not for the web and has no host.  A path that starts with two slashes would be
taken for a host and is kept apart. -/
def readHostless (scheme : String) (cs : List Char) : Url :=
  let (path, tail) := breakAt endsPath cs
  let (query, fragment) := readTail scheme tail
  let path := match path with
    | '/' :: rest => .segments (readSegments scheme rest)
    | path => .plain (String.ofList (percentEncode isControl path))
  ⟨scheme, "", "", none, none, startsWithHole path, path, query, fragment⟩

def read (text : String) : Except UrlFault Url :=
  match scheme? (clean text.toList) with
  | none => .error .noScheme
  | some ("file", rest) => readFile rest
  | some (scheme, rest) =>
    if isSpecial scheme then readAuthority scheme (rest.dropWhile fun c => c == '/' || c == '\\')
    else
      match rest with
      | '/' :: '/' :: rest => readAuthority scheme rest
      | rest => .ok (readHostless scheme rest)

end SessionVault.Url
