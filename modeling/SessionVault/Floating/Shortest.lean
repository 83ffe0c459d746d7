import SessionVault.Floating.Binary

/-!
# Shortest decimals: the fewest digits that read back

A number of a binary format stands for every real number that rounds to it, an interval whose ends belong to
it when its significand is even.  `shortest` looks for a decimal in that interval on coarser and coarser
decimal grids first: the coarsest grid with a hit wins, of two hits the one nearer to the number, and of two
equally near ones the even one.
-/

namespace SessionVault.Floating

/-- A decimal fraction, `digits · 10 ^ exponent`. -/
structure Decimal where
  digits : Nat
  exponent : Int

/-- Compares `a · 10 ^ k` with `b · 2 ^ j`. -/
def compareScaled (a : Nat) (k : Int) (b : Nat) (j : Int) : Ordering :=
  compare (a * Nat.pow 10 k.toNat * Nat.pow 2 (-j).toNat) (b * Nat.pow 2 j.toNat * Nat.pow 10 (-k).toNat)

/-- The interval of reals that round to a number, in quarters of the number's unit. -/
structure Interval where
  low : Nat
  high : Nat
  /-- The exponent of the quarter unit. -/
  unit : Int
  /-- Whether the ends belong to the interval. -/
  closed : Bool

/-- The interval of a positive number.  Below a power of two the numbers lie twice as close. -/
def Binary.interval (f : Format) (x : Binary) : Interval :=
  let m := x.significand
  let close := m = Nat.pow 2 (f.precision - 1) ∧ f.minExponent < x.exponent
  ⟨if close then 4 * m - 1 else 4 * m - 2, 4 * m + 2, x.exponent - 2, m % 2 = 0⟩

def Interval.contains (i : Interval) (a : Nat) (k : Int) : Bool :=
  let below := compareScaled a k i.low i.unit
  let above := compareScaled a k i.high i.unit
  (below == .gt || (i.closed && below == .eq)) && (above == .lt || (i.closed && above == .eq))

/-- The least `e` with `x < 10 ^ e`, for a positive fraction, looked for from an estimate upwards. -/
def Fraction.decimalExponent (x : Fraction) : Int :=
  let estimate : Int := x.log2 * 30103 / 100000
  let fits (e : Int) : Bool := x.num * Nat.pow 10 (-e).toNat < x.den * Nat.pow 10 e.toNat
  if fits (estimate - 1) then estimate - 1
  else if fits estimate then estimate
  else if fits (estimate + 1) then estimate + 1
  else estimate + 2

/-- The magnitude of a number in units of `10 ^ k`. -/
def Binary.inUnits (x : Binary) (k : Int) : Fraction :=
  ⟨x.magnitude.num * Nat.pow 10 (-k).toNat, x.magnitude.den * Nat.pow 10 k.toNat⟩

/-- The hit on the grid of multiples of `10 ^ k`: the multiple below the number or the one above. -/
def hit? (f : Format) (x : Binary) (k : Int) : Option Nat :=
  let v := x.inUnits k
  let d := v.num / v.den
  let i := x.interval f
  match i.contains d k, i.contains (d + 1) k with
  | true, false => some d
  | false, true => some (d + 1)
  | true, true => some v.nearest
  | false, false => none

/-- The digits of the coarsest grid with a hit, from `count` grids that grow finer; without a hit on any, the
multiple above the number on the last. -/
def firstHit (f : Format) (x : Binary) : Nat → Int → Decimal
  | 0, k => ⟨(x.inUnits k).num / (x.inUnits k).den + 1, k⟩
  | count + 1, k =>
    match hit? f x k with
    | some d => ⟨d, k⟩
    | none => firstHit f x count (k - 1)

/-- A decimal without zeros at its end; at most `count` are taken off. -/
def Decimal.trim : Nat → Decimal → Decimal
  | 0, d => d
  | count + 1, d => if d.digits ≠ 0 ∧ d.digits % 10 = 0 then trim count ⟨d.digits / 10, d.exponent + 1⟩ else d

/-- The shortest decimal of a number's magnitude. -/
def shortest (f : Format) (x : Binary) : Decimal :=
  if x.significand = 0 then ⟨0, 0⟩
  else
    let e := x.magnitude.decimalExponent
    (firstHit f x 20 (e - 1)).trim 20

/-! ### Writing a decimal -/

/-- How a decimal is laid out: the decimal exponents, of the first digit, that are written positionally. -/
structure Layout where
  least : Int
  greatest : Int

def digitsOf (n : Nat) : List Char := Nat.toDigits 10 n

/-- A decimal positionally, always with a point. -/
def Decimal.positional (d : Decimal) : List Char :=
  let ds := digitsOf d.digits
  if 0 ≤ d.exponent then ds ++ List.replicate d.exponent.toNat '0' ++ ['.', '0']
  else
    let places := (-d.exponent).toNat
    if places < ds.length then ds.take (ds.length - places) ++ '.' :: ds.drop (ds.length - places)
    else '0' :: '.' :: List.replicate (places - ds.length) '0' ++ ds

/-- A decimal as its first digit, the rest behind a point, and a signed exponent. -/
def Decimal.scientific (d : Decimal) : List Char :=
  let ds := digitsOf d.digits
  let e := d.exponent + (ds.length - 1 : Nat)
  let mantissa := match ds with
    | [] => []
    | [c] => [c]
    | c :: rest => c :: '.' :: rest
  mantissa ++ 'e' :: (if 0 ≤ e then '+' else '-') :: digitsOf e.natAbs

def Layout.write (l : Layout) (d : Decimal) : List Char :=
  let e := d.exponent + ((digitsOf d.digits).length - 1 : Nat)
  if l.least ≤ e ∧ e ≤ l.greatest then d.positional else d.scientific

/-- The text of a number: its sign and its shortest decimal. -/
def Layout.writeBinary (l : Layout) (f : Format) (x : Binary) : String :=
  let text := l.write (shortest f x)
  String.ofList (if x.negative then '-' :: text else text)

end SessionVault.Floating
