import SessionVault.Json.Value

/-!
# Numerals: numbers as they are written

A numeral is the sign, the digits and the exponent of a number in a JSON text.  `Numeral.scan?` takes one off
the front of a text, as much of it as can belong to a numeral, and `Numeral.value?` is the number it stands
for:

* a whole number that fits 64 bits, signed or unsigned, is an integer;
* every other numeral is a real.  Its digits are taken into a significand of 64 bits as long as they fit
  (`Numeral.gather`), and the significand is then multiplied or divided by a power of ten, one rounding for
  each step (`Numeral.scale?`).  A product beyond the largest real is no number.
-/

namespace SessionVault

open Floating

/-- A number as it is written. -/
structure Numeral where
  negative : Bool
  /-- The digits before the point. -/
  whole : List Nat
  /-- The digits behind the point, if there is one. -/
  fraction : Option (List Nat)
  exponent : Option Int

namespace Numeral

/-! ### Scanning -/

def isDigit (b : UInt8) : Bool := 0x30 ≤ b && b ≤ 0x39

def digit (b : UInt8) : Nat := b.toNat - 48

def ofDigits (ds : List Nat) : Nat := ds.foldl (fun n d => n * 10 + d) 0

/-- The digits at the front of a text, and the rest. -/
def digits (bs : Bytes) : List Nat × Bytes := ((bs.takeWhile isDigit).map digit, bs.dropWhile isDigit)

/-- The digits at the front of a text, at least one. -/
def digits? (bs : Bytes) : Option (List Nat × Bytes) :=
  match digits bs with
  | ([], _) => none
  | (d :: ds, rest) => some (d :: ds, rest)

/-- The digits before the point: a zero stands alone. -/
def whole? : Bytes → Option (List Nat × Bytes)
  | [] => none
  | b :: rest => if b = 0x30 then some ([0], rest) else digits? (b :: rest)

/-- The digits behind the point, if a point follows. -/
def fraction? : Bytes → Option (Option (List Nat) × Bytes)
  | [] => some (none, [])
  | b :: rest =>
    if b = 0x2e then (digits? rest).map fun (ds, rest) => (some ds, rest) else some (none, b :: rest)

/-- A sign before an exponent: whether it is a minus, and the rest. -/
def sign : Bytes → Bool × Bytes
  | [] => (false, [])
  | b :: rest => if b = 0x2d then (true, rest) else if b = 0x2b then (false, rest) else (false, b :: rest)

def exponent? : Bytes → Option (Option Int × Bytes)
  | [] => some (none, [])
  | b :: rest =>
    if b = 0x65 ∨ b = 0x45 then
      let (minus, rest) := sign rest
      (digits? rest).map fun (ds, rest) =>
        (some (if minus then -(ofDigits ds : Int) else (ofDigits ds : Int)), rest)
    else some (none, b :: rest)

/-- The numeral at the front of a text, and the rest. -/
def scan? (bs : Bytes) : Option (Numeral × Bytes) := do
  let (negative, bs) := match bs with
    | b :: rest => if b = 0x2d then (true, rest) else (false, b :: rest)
    | [] => (false, [])
  let (whole, bs) ← whole? bs
  let (fraction, bs) ← fraction? bs
  let (exponent, bs) ← exponent? bs
  return (⟨negative, whole, fraction, exponent⟩, bs)

/-! ### Value -/

/-- Takes digits into a significand as long as it fits 64 bits: the significand and the number of digits
taken. -/
def gather (m : Nat) : List Nat → Nat × Nat
  | [] => (m, 0)
  | d :: ds =>
    if m * 10 + d < 0x10000000000000000 then
      let (m, n) := gather (m * 10 + d) ds
      (m, n + 1)
    else (m, 0)

/-- The real `m · 10 ^ e`, in steps that each round.  A divisor beyond the largest power of ten is taken in two
parts, and one beyond both parts leaves zero. -/
def scale? (m : Nat) (e : Int) : Option Binary := do
  let f ← binary64.ofNat m
  if 0 ≤ e then
    if e ≤ 308 then f.mul binary64 (← binary64.powerOfTen e.toNat)
    else if m = 0 then return f
    else none
  else if -308 ≤ e then f.div binary64 (← binary64.powerOfTen (-e).toNat)
  else if -616 ≤ e then
    let f ← f.div binary64 (← binary64.powerOfTen 308)
    f.div binary64 (← binary64.powerOfTen (-e - 308).toNat)
  else return binary64.zero false

/-- A whole number with a sign: an integer where 64 bits hold it, and a real otherwise.  Minus zero is a
real. -/
def ofWhole? (negative : Bool) (m : Nat) : Option Number :=
  if negative then
    if m ≠ 0 ∧ m ≤ 0x8000000000000000 then some (.int (-(m : Int)))
    else (binary64.ofNat m).map fun f => .real f.neg
  else some (.int m)

def value? (n : Numeral) : Option Number :=
  let (m, taken) := gather 0 n.whole
  let dropped := n.whole.length - taken
  if n.fraction.isNone ∧ n.exponent.isNone ∧ dropped = 0 then ofWhole? n.negative m
  else
    -- Digits that do not fit are dropped: those of the whole part count as a power of ten, the others not at all.
    let (m, places) := gather m (n.fraction.getD [])
    (scale? m ((dropped : Int) - places + n.exponent.getD 0)).map fun f =>
      .real (if n.negative then f.neg else f)

end Numeral

end SessionVault
