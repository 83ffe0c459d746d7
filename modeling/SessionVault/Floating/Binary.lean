/-!
# Binary floating-point numbers, in exact arithmetic

A finite number of a binary format is `± significand · 2 ^ exponent`, kept as the two integers and never as a
machine float, so every operation below is a statement about natural numbers.

* `Format.round` — the number of the format nearest to a fraction, a tie going to the even significand;
* `Binary.mul`, `Binary.div` — the rounded product and quotient;
* `Format.ofNat` — the number nearest to a natural number;
* `Format.powerOfTen` — the number nearest to a power of ten.

`none` stands for a result beyond the largest number of the format.
-/

namespace SessionVault.Floating

/-- A binary format: the bits of a significand and the least and greatest exponent. -/
structure Format where
  precision : Nat
  minExponent : Int
  maxExponent : Int

def binary64 : Format := ⟨53, -1074, 971⟩

def binary32 : Format := ⟨24, -149, 104⟩

/-- A finite number, `± significand · 2 ^ exponent`. -/
structure Binary where
  negative : Bool
  significand : Nat
  exponent : Int
deriving DecidableEq

/-! ### Fractions -/

/-- A fraction of natural numbers; the denominator is meant to be positive. -/
structure Fraction where
  num : Nat
  den : Nat

def Fraction.shift (x : Fraction) (e : Int) : Fraction :=
  if 0 ≤ e then ⟨x.num * Nat.pow 2 e.toNat, x.den⟩ else ⟨x.num, x.den * Nat.pow 2 (-e).toNat⟩

/-- The natural number nearest to a fraction, a tie going to the even one. -/
def Fraction.nearest (x : Fraction) : Nat :=
  let q := x.num / x.den
  let r := 2 * (x.num % x.den)
  if r < x.den then q else if x.den < r then q + 1 else q + q % 2

/-- The exponent of the greatest power of two that is not above a positive fraction. -/
def Fraction.log2 (x : Fraction) : Int :=
  let e : Int := (x.num.log2 : Int) - x.den.log2
  let scaled := x.shift (-e)
  if scaled.den ≤ scaled.num then e else e - 1

/-! ### Rounding -/

/-- The number of the format nearest to a fraction, with the given sign. -/
def Format.round (f : Format) (negative : Bool) (x : Fraction) : Option Binary :=
  if x.num = 0 then some ⟨negative, 0, f.minExponent⟩
  else
    let q := max f.minExponent (x.log2 - (f.precision - 1))
    let m := (x.shift (-q)).nearest
    let (m, q) := if m = Nat.pow 2 f.precision then (Nat.pow 2 (f.precision - 1), q + 1) else (m, q)
    if f.maxExponent < q then none else some ⟨negative, m, q⟩

def Format.zero (f : Format) (negative : Bool) : Binary := ⟨negative, 0, f.minExponent⟩

def Binary.magnitude (x : Binary) : Fraction := (⟨x.significand, 1⟩ : Fraction).shift x.exponent

def Binary.neg (x : Binary) : Binary := { x with negative := !x.negative }

def Binary.mul (f : Format) (x y : Binary) : Option Binary :=
  let a := x.magnitude
  let b := y.magnitude
  f.round (x.negative != y.negative) ⟨a.num * b.num, a.den * b.den⟩

/-- The rounded quotient; the divisor is meant to be other than zero. -/
def Binary.div (f : Format) (x y : Binary) : Option Binary :=
  let a := x.magnitude
  let b := y.magnitude
  f.round (x.negative != y.negative) ⟨a.num * b.den, a.den * b.num⟩

def Format.ofNat (f : Format) (n : Nat) : Option Binary := f.round false ⟨n, 1⟩

def Format.powerOfTen (f : Format) (e : Nat) : Option Binary := f.ofNat (Nat.pow 10 e)

/-- The number nearest to a decimal fraction, `± digits · 10 ^ e`. -/
def Format.ofDecimal (f : Format) (negative : Bool) (digits : Nat) (e : Int) : Option Binary :=
  if 0 ≤ e then f.round negative ⟨digits * Nat.pow 10 e.toNat, 1⟩
  else f.round negative ⟨digits, Nat.pow 10 (-e).toNat⟩

end SessionVault.Floating
