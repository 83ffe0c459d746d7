import SessionVault.Text.Natural
import SessionVault.Time.Instant

/-!
# RFC 3339: instants as text

`Instant.rfc3339` writes an instant in UTC with as many groups of three fraction digits as it needs; a year
outside four digits has a sign.  `Rfc3339.read` reads more than is written: one-digit fields, a lower-case or
missing `T`, blanks around the parts, any offset below a day, and fractions of any length.  What is wrong with
a text is a `TimeFault`.
-/

namespace SessionVault

/-- What is wrong with the text of an instant. -/
inductive TimeFault where
  | tooShort
  | invalid
  | outOfRange
  | impossible
  | tooLong
deriving DecidableEq

def TimeFault.message : TimeFault → String
  | tooShort => "premature end of input"
  | invalid => "input contains invalid characters"
  | outOfRange => "input is out of range"
  | impossible => "no possible date and time matching input"
  | tooLong => "trailing input"

namespace Time

/-! ### Writing -/

/-- A number with at least `width` digits. -/
def padded (width n : Nat) : List Char :=
  let ds := Nat.toDigits 10 n
  List.replicate (width - ds.length) '0' ++ ds

/-- A year: four digits, or a sign and at least four. -/
def yearText (y : Int) : List Char :=
  if 0 ≤ y ∧ y ≤ 9999 then padded 4 y.toNat
  else (if 0 ≤ y then '+' else '-') :: padded 4 y.natAbs

/-- The fraction of a second, in groups of three digits. -/
def fractionText (nanos : Nat) : List Char :=
  if nanos = 0 then []
  else if nanos % 1000000 = 0 then '.' :: padded 3 (nanos / 1000000)
  else if nanos % 1000 = 0 then '.' :: padded 6 (nanos / 1000)
  else '.' :: padded 9 nanos

def dateOf (t : Instant) : Date := Date.ofDayNumber (t.seconds / 86400)

/-- The time of day, with `second` 60 for a leap second. -/
def clockText (t : Instant) : List Char :=
  let s := t.secondOfDay.toNat
  let second := s % 60 + if t.isLeap then 1 else 0
  padded 2 (s / 3600) ++ ':' :: padded 2 (s / 60 % 60) ++ ':' :: padded 2 second

def rfc3339 (t : Instant) : List Char :=
  let d := dateOf t
  yearText d.year ++ '-' :: padded 2 d.month ++ '-' :: padded 2 d.day ++ 'T' :: clockText t ++
    fractionText (t.nanos % 1000000000) ++ ['Z']

end Time

def Duration.text (d : Duration) : String :=
  toString d.seconds ++ "." ++ String.ofList (Time.padded 9 (d.nanos % Duration.perSecond))

def Instant.rfc3339 (t : Instant) : String := String.ofList (Time.rfc3339 t)

/-! ### Reading -/

namespace Rfc3339

open Natural (isDigit ofDigits)

def isSpace (c : Char) : Bool :=
  let n := c.toNat
  (9 ≤ n && n ≤ 13) || n == 0x20 || n == 0x85 || n == 0xA0 || n == 0x1680 || (0x2000 ≤ n && n ≤ 0x200A) ||
    n == 0x2028 || n == 0x2029 || n == 0x202F || n == 0x205F || n == 0x3000

/-- The text behind the white space at its front. -/
def trim (cs : List Char) : List Char := cs.dropWhile isSpace

/-- A number of at least one digit and at most `most`, or of any length. -/
def number (most : Option Nat) (cs : List Char) : Except TimeFault (Nat × List Char) :=
  let ds := (match most with
    | some n => cs.take n
    | none => cs).takeWhile isDigit
  if cs.isEmpty then .error .tooShort
  else if ds.isEmpty then .error .invalid
  else if 0x8000000000000000 ≤ ofDigits ds then .error .outOfRange
  else .ok (ofDigits ds, cs.drop ds.length)

/-- A character that has to follow. -/
def expect (c : Char) (cs : List Char) : Except TimeFault (List Char) :=
  match cs with
  | [] => .error .tooShort
  | d :: rest => if d = c then .ok rest else .error .invalid

/-- A number of at most two digits that lies between bounds. -/
def field (least greatest : Nat) (cs : List Char) : Except TimeFault (Nat × List Char) := do
  let (n, rest) ← number (some 2) (trim cs)
  if least ≤ n ∧ n ≤ greatest then .ok (n, rest) else .error .outOfRange

/-- A year: up to four digits, or a sign and any number of digits. -/
def year (cs : List Char) : Except TimeFault (Int × List Char) := do
  let (y, rest) ← match trim cs with
    | '-' :: rest => (number none rest).map fun (n, rest) => (-(n : Int), rest)
    | '+' :: rest => (number none rest).map fun (n, rest) => ((n : Int), rest)
    | cs => (number (some 4) cs).map fun (n, rest) => ((n : Int), rest)
  if -2147483648 ≤ y ∧ y ≤ 2147483647 then .ok (y, rest) else .error .outOfRange

/-- The nanoseconds of a fraction, if one follows; digits beyond the ninth are cut off. -/
def fraction (cs : List Char) : Except TimeFault (Nat × List Char) :=
  match cs with
  | '.' :: rest => do
    let (n, after) ← number (some 9) rest
    .ok (n * Nat.pow 10 (9 - (rest.length - after.length)), after.dropWhile isDigit)
  | cs => .ok (0, cs)

/-- Two digits, the first at most `top`; `wide` is what a greater first digit is refused as. -/
def twoDigits (top : Char) (wide : TimeFault) : List Char → Except TimeFault (Nat × List Char)
  | a :: b :: rest =>
    if isDigit a ∧ isDigit b then
      if a ≤ top then .ok (ofDigits [a, b], rest) else .error wide
    else .error .invalid
  | [a] => .error (if a.utf8Size < 2 then .tooShort else .invalid)
  | [] => .error .tooShort

/-- The seconds east of UTC of an offset. -/
def offset (cs : List Char) : Except TimeFault (Int × List Char) :=
  match cs with
  | [] => .error .tooShort
  | c :: rest =>
    if c = 'Z' ∨ c = 'z' then .ok (0, rest)
    else if c = '+' ∨ c = '-' ∨ c = '−' then do
      let (hours, rest) ← twoDigits '9' .invalid rest
      let rest := rest.dropWhile fun c => c == ':' || isSpace c
      let (minutes, rest) ← twoDigits '5' .outOfRange rest
      let s : Int := hours * 3600 + minutes * 60
      .ok (if c = '+' then s else -s, rest)
    else .error .invalid

/-- The offset of a zone: the word `UTC` in any case, or an offset. -/
def zone (cs : List Char) : Except TimeFault (Int × List Char) :=
  if (cs.take 3).map Char.toUpper = ['U', 'T', 'C'] then .ok (0, cs.drop 3) else offset cs

def isCovered (d : Time.Date) : Bool := d.isValid && -262143 ≤ d.year && d.year ≤ 262142

def read (text : String) : Except TimeFault Instant := do
  let (y, cs) ← year text.toList
  let cs ← expect '-' (trim cs)
  let (month, cs) ← field 1 12 cs
  let cs ← expect '-' (trim cs)
  let (day, cs) ← field 1 31 cs
  let cs ← match cs with
    | [] => .error .tooShort
    | c :: rest => if c = 'T' ∨ c = 't' ∨ c = ' ' then .ok rest else .error .invalid
  let (hour, cs) ← field 0 23 cs
  let cs ← expect ':' (trim cs)
  let (minute, cs) ← field 0 59 cs
  let cs ← expect ':' (trim cs)
  let (second, cs) ← field 0 60 cs
  let (nanos, cs) ← fraction cs
  let (east, cs) ← zone (trim cs)
  if !(trim cs).isEmpty then .error .tooLong
  let date : Time.Date := ⟨y, month, day⟩
  if !isCovered date then .error .outOfRange
  if 86400 ≤ east.natAbs then .error .outOfRange
  -- A leap second is the second before it with a second more of nanoseconds.
  let (second, nanos) := if second = 60 then (59, nanos + 1000000000) else (second, nanos)
  let wall : Int := date.dayNumber * 86400 + (hour * 3600 + minute * 60 + second : Nat)
  match Instant.ofParts? (wall - east) nanos with
  | some t => .ok t
  | none => .error .impossible

end Rfc3339

end SessionVault
