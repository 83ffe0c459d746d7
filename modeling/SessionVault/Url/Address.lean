/-!
# Addresses: hosts that are numbers

* `readIpv4` — an address of the version 4 in up to four parts, each decimal, octal or hexadecimal, the last
  of which fills what is left;
* `readIpv6` — an address of the version 6 in pieces between colons, with one gap of zeros and a decimal
  address of the version 4 at its end allowed;
* `ipv4Text`, `ipv6Text` — how they are written: decimal parts; pieces with the first longest gap left out.
-/

namespace SessionVault.Url

/-! ### Version 4 -/

/-- The value of a digit in a base up to sixteen. -/
def digitIn (base : Nat) (c : Char) : Option Nat :=
  let v : Option Nat :=
    if '0' ≤ c ∧ c ≤ '9' then some (c.toNat - 48)
    else if 'a' ≤ c ∧ c ≤ 'f' then some (c.toNat - 87)
    else if 'A' ≤ c ∧ c ≤ 'F' then some (c.toNat - 55)
    else none
  v.filter (· < base)

def numberIn (base : Nat) (cs : List Char) : Option Nat :=
  cs.foldl (fun n c => do return (← n) * base + (← digitIn base c)) (some 0)

/-- The number of one part: `0x` in front means sixteen, `0` in front means eight. -/
def ipv4Part : List Char → Option Nat
  | [] => none
  | '0' :: c :: rest => if c = 'x' ∨ c = 'X' then numberIn 16 rest else numberIn 8 (c :: rest)
  | cs => numberIn 10 cs

/-- A list cut at every separator. -/
def cut {α : Type} (separator : α → Bool) : List α → List (List α)
  | [] => [[]]
  | c :: rest =>
    if separator c then [] :: cut separator rest
    else match cut separator rest with
      | [] => [[c]]
      | part :: parts => (c :: part) :: parts

/-- The parts between dots, without an empty one at the end. -/
def dottedParts (cs : List Char) : List (List Char) :=
  let parts := cut (· == '.') cs
  if 1 < parts.length ∧ parts.getLast? = some [] then parts.dropLast else parts

/-- Whether a host is meant to be an address of the version 4: its last part is a number. -/
def endsInNumber (cs : List Char) : Bool :=
  match (dottedParts cs).getLast? with
  | some last => !last.isEmpty && (last.all (fun c => '0' ≤ c && c ≤ '9') || (ipv4Part last).isSome)
  | none => false

def readIpv4 (cs : List Char) : Option Nat := do
  let parts := dottedParts cs
  if 4 < parts.length then none
  else
    let numbers ← parts.mapM ipv4Part
    let last ← numbers.getLast?
    let front := numbers.dropLast
    if front.any (255 < ·) ∨ Nat.pow 256 (4 - front.length) ≤ last then none
    else return front.foldl (fun n p => n * 256 + p) 0 * Nat.pow 256 (4 - front.length) + last

def ipv4Text (n : Nat) : String :=
  ".".intercalate ([n / 16777216 % 256, n / 65536 % 256, n / 256 % 256, n % 256].map toString)

/-! ### Version 6 -/

/-- A decimal part inside an address of the version 6: below 256, without zeros in front. -/
def decimalPart (cs : List Char) : Option Nat :=
  match cs with
  | [] => none
  | ['0'] => some 0
  | '0' :: _ => none
  | cs => (numberIn 10 cs).filter (· < 256)

def decimalPieces (cs : List Char) : Option (List Nat) := do
  match ← (cut (· == '.') cs).mapM decimalPart with
  | [a, b, c, d] => some [a * 256 + b, c * 256 + d]
  | _ => none

/-- A piece of at most four hexadecimal digits. -/
def hexPiece (cs : List Char) : Option Nat :=
  if cs.isEmpty ∨ 4 < cs.length then none else numberIn 16 cs

/-- The pieces of parts between colons; the last part may be a decimal address if `atEnd`. -/
def pieces (atEnd : Bool) : List (List Char) → Option (List Nat)
  | [] => some []
  | [part] =>
    if atEnd ∧ part.contains '.' then decimalPieces part else (hexPiece part).map fun n => [n]
  | part :: parts => do return (← hexPiece part) :: (← pieces atEnd parts)

/-- The texts in front of the first double colon and behind it. -/
def gap : List Char → Option (List Char × List Char)
  | [] => none
  | [_] => none
  | a :: b :: rest =>
    if a = ':' ∧ b = ':' then some ([], rest)
    else (gap (b :: rest)).map fun (front, back) => (a :: front, back)

/-- The pieces of a text beside the gap, which may be empty. -/
def side (atEnd : Bool) (cs : List Char) : Option (List Nat) :=
  if cs.isEmpty then some [] else pieces atEnd (cut (· == ':') cs)

/-- The eight pieces of the address that a text spells. -/
def readIpv6 (cs : List Char) : Option (List Nat) :=
  match gap cs with
  | none => do
    let ps ← pieces true (cut (· == ':') cs)
    if ps.length = 8 then some ps else none
  | some (front, back) => do
    let front ← side false front
    let back ← side true back
    let missing := 8 - (front.length + back.length)
    if missing = 0 then none else some (front ++ List.replicate missing 0 ++ back)

def zeros (ps : List Nat) : Nat := (ps.takeWhile (· == 0)).length

/-- The first longest gap of zeros: where it starts, and how long it is. -/
def longestGap (ps : List Nat) : Nat × Nat :=
  (List.range ps.length).foldl
    (fun best i =>
      let n := zeros (ps.drop i)
      if best.2 < n then (i, n) else best)
    (0, 0)

def piecesText (ps : List Nat) : String :=
  ":".intercalate (ps.map fun p => String.ofList (Nat.toDigits 16 p))

/-- The text of an address of the version 6; a gap is left out if it is longer than one piece. -/
def ipv6Text (ps : List Nat) : String :=
  let (start, n) := longestGap ps
  if n < 2 then piecesText ps
  else piecesText (ps.take start) ++ "::" ++ piecesText (ps.drop (start + n))

end SessionVault.Url
