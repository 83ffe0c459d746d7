import SessionVault.Floating.Binary
import SessionVault.Text.Natural

/-!
# Spellings: reals read from decimal text

`Floating.read?` reads a sign, digits with or without a point, and an exponent, and gives the nearest number of
a format.  The words for infinity and for what is no number are read too, as texts without a finite number.
-/

namespace SessionVault.Floating

open Natural (isDigit ofDigits)

/-- Takes a sign off the front of a text: whether it is a minus, and the rest. -/
def takeSign : List Char → Bool × List Char
  | '-' :: rest => (true, rest)
  | '+' :: rest => (false, rest)
  | rest => (false, rest)

/-- The words that name no finite number, in lower case. -/
def words : List String := ["inf", "infinity", "nan"]

def exponent? : List Char → Option Int
  | [] => some 0
  | c :: rest =>
    if c = 'e' ∨ c = 'E' then
      let (minus, ds) := takeSign rest
      if ds.isEmpty ∨ !ds.all isDigit then none
      else some (if minus then -(ofDigits ds : Int) else (ofDigits ds : Int))
    else none

/-- An exponent brought near to zero where digits with it are beyond every format, or nearer to zero than any
number of one: there it makes no difference. -/
def nearExponent (digits : Nat) (e : Int) : Int := max (min e 400) (-400 - (digits.log2 : Int))

/-- The number that a text spells: none inside where it is not finite. -/
def read? (f : Format) (text : String) : Option (Option Binary) :=
  let (negative, cs) := takeSign text.toList
  if words.contains (String.ofList (cs.map Char.toLower)) then some none
  else
    let whole := cs.takeWhile isDigit
    let rest := cs.drop whole.length
    let (places, rest) := match rest with
      | '.' :: rest => (rest.takeWhile isDigit, rest.dropWhile isDigit)
      | rest => ([], rest)
    if whole.isEmpty ∧ places.isEmpty then none
    else
      (exponent? rest).map fun e =>
        let digits := ofDigits (whole ++ places)
        f.ofDecimal negative digits (nearExponent digits (e - places.length))

end SessionVault.Floating
