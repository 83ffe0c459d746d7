/-!
# Calendar: days and dates

Days are counted from the first of January 1970, dates follow the Gregorian rule in both directions.  Years
repeat every 400 years; inside such an era the year is counted from the first of March, so that the day a leap
year adds is the last of its year.

* `Date.dayNumber` — the day of a date;
* `Date.ofDayNumber` — the date of a day;
* `Date.isValid` — whether a month has a day;
* `weekday` — Sunday is 0.
-/

namespace SessionVault.Time

/-- A date; month and day count from one. -/
structure Date where
  year : Int
  month : Nat
  day : Nat
deriving DecidableEq

/-- Whether a year has a 29th of February. -/
def isLeapYear (y : Int) : Bool := y % 4 == 0 && (y % 100 != 0 || y % 400 == 0)

def monthLength (y : Int) (m : Nat) : Nat :=
  if m = 2 then if isLeapYear y then 29 else 28
  else if m = 4 ∨ m = 6 ∨ m = 9 ∨ m = 11 then 30 else 31

def Date.isValid (d : Date) : Bool :=
  1 ≤ d.month && d.month ≤ 12 && 1 ≤ d.day && d.day ≤ monthLength d.year d.month

/-- The days of an era of 400 years. -/
def eraDays : Nat := 146097

/-- The days from the start of the era that holds the year 0 to the first of January 1970. -/
def epochOffset : Int := 719468

/-- The day of a year that starts in March on which a month begins; March is 0. -/
def monthStart (m : Nat) : Nat := (153 * m + 2) / 5

def Date.dayNumber (d : Date) : Int :=
  let y := if d.month ≤ 2 then d.year - 1 else d.year
  let m := if d.month ≤ 2 then d.month + 9 else d.month - 3
  let yearOfEra := (y % 400).toNat
  let dayOfEra := 365 * yearOfEra + yearOfEra / 4 - yearOfEra / 100 + monthStart m + (d.day - 1)
  y / 400 * eraDays + dayOfEra - epochOffset

def Date.ofDayNumber (n : Int) : Date :=
  let n := n + epochOffset
  let dayOfEra := (n % eraDays).toNat
  let century := min 3 (dayOfEra / 36524)
  let rest := dayOfEra - century * 36524
  let quad := rest / 1461
  let rest := rest - quad * 1461
  let single := min 3 (rest / 365)
  let dayOfYear := rest - single * 365
  let m := (5 * dayOfYear + 2) / 153
  let year := n / eraDays * 400 + (100 * century + 4 * quad + single : Nat)
  let day := dayOfYear - monthStart m + 1
  if m < 10 then ⟨year, m + 3, day⟩ else ⟨year + 1, m - 9, day⟩

def weekday (n : Int) : Nat := ((n + 4) % 7).toNat

end SessionVault.Time
