/-!
# Punycode: letters beyond ASCII in the labels of a host

A label with letters beyond ASCII is written as its ASCII letters, a hyphen, and the other letters as numbers
in the order of their code points, each number telling how far to go from the one before.

* `Punycode.encode` — the text of a label;
* `Punycode.decode?` — the label of a text.
-/

namespace SessionVault.Url.Punycode

/-- The character of a digit: letters, then the digits from zero. -/
def digit (d : Nat) : Char := if d < 26 then Char.ofNat (97 + d) else Char.ofNat (22 + d)

/-- The value of a digit; letters are in lower case. -/
def digitValue? (c : Char) : Option Nat :=
  if 'a' ≤ c ∧ c ≤ 'z' then some (c.toNat - 97) else if '0' ≤ c ∧ c ≤ '9' then some (c.toNat - 22) else none

def threshold (k bias : Nat) : Nat := if k ≤ bias then 1 else if bias + 26 ≤ k then 26 else k - bias

theorem threshold_pos (k bias : Nat) : 1 ≤ threshold k bias := by
  simp only [threshold]
  split
  · omega
  · split <;> omega

/-- Brings a distance down, and counts the steps in digits. -/
def settle (delta k : Nat) : Nat × Nat :=
  if h : 455 < delta then settle (delta / 35) (k + 36) else (delta, k)
termination_by delta
decreasing_by exact Nat.div_lt_self (by omega) (by omega)

/-- The bias after a distance was written. -/
def adapt (delta points : Nat) (first : Bool) : Nat :=
  let delta := if first then delta / 700 else delta / 2
  let (delta, k) := settle (delta + delta / points) 0
  k + 36 * delta / (delta + 38)

def digits (bias k q : Nat) : List Char :=
  let t := threshold k bias
  if h : q < t then [digit q]
  else digit (t + (q - t) % (36 - t)) :: digits bias (k + 36) ((q - t) / (36 - t))
termination_by q
decreasing_by
  have := threshold_pos k bias
  have hd := Nat.div_le_self (q - threshold k bias) (36 - threshold k bias)
  omega

/-! ### Writing -/

/-- What is written so far. -/
structure State where
  out : List Char
  delta : Nat
  bias : Nat
  /-- The letters written. -/
  count : Nat

/-- Passes one letter of the label on the way to code point `m`; `basic` letters are ASCII. -/
def pass (basic m : Nat) (s : State) (c : Char) : State :=
  if c.toNat < m then { s with delta := s.delta + 1 }
  else if c.toNat = m then
    ⟨s.out ++ digits s.bias 36 s.delta, 0, adapt s.delta (s.count + 1) (s.count == basic), s.count + 1⟩
  else s

/-- Writes the code points of a list in ascending order, from `n` on. -/
def writePoints (label : List Char) (basic : Nat) : List Nat → Nat → State → State
  | [], _, s => s
  | m :: rest, n, s =>
    let s := { s with delta := s.delta + (m - n) * (s.count + 1) }
    let s := label.foldl (pass basic m) s
    writePoints label basic rest (m + 1) { s with delta := s.delta + 1 }

def encode (label : List Char) : List Char :=
  let ascii := label.filter fun c => c.toNat < 0x80
  let points := ((label.map Char.toNat).filter (0x80 ≤ ·)).eraseDups.mergeSort
  let start : State := ⟨[], 0, 72, ascii.length⟩
  ascii ++ (if ascii.isEmpty then [] else ['-']) ++ (writePoints label ascii.length points 128 start).out

/-! ### Reading -/

/-- Numbers of a text and the weights of their digits stay below this one. -/
def limit : Nat := 0x100000000

/-- A label that is being read, and the number that is being read. -/
structure Reading where
  letters : List Char
  /-- The code point that is reached. -/
  point : Nat
  /-- The place of the next letter, if it has the same code point. -/
  place : Nat
  bias : Nat
  /-- The number so far, counted on from the place. -/
  number : Nat
  /-- The weight of the next digit. -/
  weight : Nat
  /-- The position of the next digit, in steps of 36. -/
  position : Nat

/-- Ends a number: a letter goes where it says. -/
def Reading.insert (s : Reading) (number : Nat) : Option Reading :=
  let count := s.letters.length + 1
  let point := s.point + number / count
  let place := number % count
  let bias := adapt (number - s.place) count (s.place == 0)
  if point.isValidChar then
    some ⟨s.letters.insertIdx place (Char.ofNat point), point, place + 1, bias, place + 1, 1, 36⟩
  else none

/-- Reads a digit; one below its threshold ends the number. -/
def Reading.step (s : Reading) (c : Char) : Option Reading := do
  let d ← digitValue? c
  let number := s.number + d * s.weight
  let t := threshold s.position s.bias
  let weight := s.weight * (36 - t)
  if limit ≤ number then none
  else if d < t then s.insert number
  else if limit ≤ weight then none
  else some { s with number, weight, position := s.position + 36 }

def readNumbers (letters cs : List Char) : Option (List Char) := do
  let s ← cs.foldlM Reading.step ⟨letters, 128, 0, 72, 0, 1, 36⟩
  if s.position = 36 then some s.letters else none

/-- The label of a text without the mark in front: in front of the last hyphen stand letters, behind it numbers.
A hyphen has letters in front of it. -/
def decode? (cs : List Char) : Option (List Char) :=
  let numbers := (cs.reverse.takeWhile (· ≠ '-')).reverse
  match (cs.take (cs.length - numbers.length)).reverse with
  | [] => readNumbers [] numbers
  | [_] => none
  | _ :: letters => readNumbers letters.reverse numbers

end SessionVault.Url.Punycode
