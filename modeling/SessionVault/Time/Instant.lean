import SessionVault.Time.Calendar

/-!
# Instants and durations

An instant is a second since the start of 1970 and the nanoseconds into it.  A leap second is written as the
second before it with a thousand million nanoseconds or more, and follows only the last second of a minute.
Instants end with the year 262142, and a sum beyond that end is the end itself.

* `Duration` — a time span, in nanoseconds;
* `Duration.addable?` — the duration, if it is short enough to be added to an instant;
* `Instant.after?` — the instant a duration later, if there is one;
* `Instant.add` — the instant a duration later, at most `Instant.latest`;
* `Instant.since` — the nanoseconds from one instant to another;
* `Instant.remaining` — the time left until an instant, if there is any.

A leap second counts only where a difference or a sum crosses it, and a difference notices that by the times of
day of its two instants alone.
-/

namespace SessionVault

/-! ### Durations -/

structure Duration where
  nanos : Nat
deriving DecidableEq, Inhabited

namespace Duration

def perSecond : Nat := 1000000000

def ofSeconds (n : Nat) : Duration := ⟨n * perSecond⟩

def ofMillis (n : Nat) : Duration := ⟨n * 1000000⟩

/-- The longest span: 64 bits of seconds and all nanoseconds but one. -/
def longest : Duration := ⟨0x10000000000000000 * perSecond - 1⟩

/-- The longest span that can be added to an instant: 63 bits of milliseconds. -/
def longestAddable : Duration := .ofMillis 0x7FFFFFFFFFFFFFFF

/-- The span, if it can be added to an instant. -/
def addable? (d : Duration) : Option Duration := if d.nanos ≤ longestAddable.nanos then some d else none

def seconds (d : Duration) : Nat := d.nanos / perSecond

def millis (d : Duration) : Nat := d.nanos / 1000000

def isZero (d : Duration) : Bool := d.nanos == 0

end Duration

/-! ### Instants -/

structure Instant where
  /-- The seconds since the start of 1970. -/
  seconds : Int
  /-- The nanoseconds into the second; a leap second has a thousand million or more. -/
  nanos : Nat
  seconds_ge : -8334601228800 ≤ seconds
  seconds_le : seconds ≤ 8210266876799
  nanos_lt : nanos < 2000000000
  leap_last : 1000000000 ≤ nanos → seconds % 60 = 59
deriving DecidableEq

namespace Instant

/-- The last instant: the end of the year 262142. -/
def latest : Instant := ⟨8210266876799, 999999999, by decide, by decide, by decide, by decide⟩

/-- The start of 1970. -/
def epoch : Instant := ⟨0, 0, by decide, by decide, by decide, by decide⟩

/-- The instant with these seconds and nanoseconds, if there is one. -/
def ofParts? (seconds : Int) (nanos : Nat) : Option Instant :=
  if h : -8334601228800 ≤ seconds ∧ seconds ≤ 8210266876799 ∧ nanos < 2000000000 ∧
      (1000000000 ≤ nanos → seconds % 60 = 59) then
    some ⟨seconds, nanos, h.1, h.2.1, h.2.2.1, h.2.2.2⟩
  else none

/-- Whether an instant lies in a leap second. -/
def isLeap (t : Instant) : Bool := 1000000000 ≤ t.nanos

def before (a b : Instant) : Bool :=
  a.seconds < b.seconds || (a.seconds == b.seconds && a.nanos < b.nanos)

/-! ### Sums -/

/-- The instant `d` later, if there is one.  Inside a leap second a span that does not leave it only adds its
nanoseconds. -/
def after? (t : Instant) (d : Duration) : Option Instant :=
  let s := d.nanos / Duration.perSecond
  let n := d.nanos % Duration.perSecond
  if t.isLeap ∧ s = 0 ∧ t.nanos + n < 2000000000 then ofParts? t.seconds (t.nanos + n)
  else
    let nanos := (if t.isLeap then t.nanos - Duration.perSecond else t.nanos) + n
    ofParts? (t.seconds + s + (nanos / Duration.perSecond : Nat)) (nanos % Duration.perSecond)

/-- The instant `d` later, or the last one.  A span that is too long counts as the longest that can be added. -/
def add (t : Instant) (d : Duration) : Instant := (t.after? (d.addable?.getD Duration.longestAddable)).getD latest

/-! ### Differences -/

def secondOfDay (t : Instant) : Int := t.seconds % 86400

/-- The nanoseconds from `b` to `a`. -/
def since (a b : Instant) : Int :=
  -- Seconds are counted as if no day had a leap second.  One that an instant lies in is made up for by the times of day
  -- alone, so that it can be missed where the two lie on different days.
  let crossed : Int :=
    if b.secondOfDay < a.secondOfDay then if b.isLeap then 1 else 0
    else if a.secondOfDay < b.secondOfDay then if a.isLeap then -1 else 0
    else 0
  (a.seconds - b.seconds + crossed) * Duration.perSecond + ((a.nanos : Int) - b.nanos)

/-- The time left from `now` until `t`, if there is any. -/
def remaining (t now : Instant) : Option Duration :=
  let d := t.since now
  if 0 < d then some ⟨d.toNat⟩ else none

end Instant

end SessionVault
