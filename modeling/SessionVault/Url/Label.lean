import SessionVault.Unicode.Composition
import SessionVault.Unicode.Folding
import SessionVault.Unicode.Joining
import SessionVault.Url.Address
import SessionVault.Url.Punycode

/-!
# Labels: what stands between the dots of a domain

A label has letters of all kinds and is written in ASCII: as it is, or as a mark and its Punycode text.  A text in
ASCII stands for itself, in lower case.  The letters of any other text are folded first, and a folded letter can
be a dot, so it stands for one label or more.

A Punycode text is one of a label only if folding has nothing to change in its letters.

* `Label.fold?` — the letters that a domain has for those of a text;
* `Label.decode?` — the letters of a Punycode text; `Label.write` — how letters are written;
* `Label.read?` — the labels of a text between two dots.
-/

namespace SessionVault.Url

structure Label where
  letters : List Char
  /-- How it is written. -/
  ascii : List Char
deriving DecidableEq

namespace Label

/-! ### Letters -/

def isAscii (cs : List Char) : Bool := cs.all fun c => c.toNat < 0x80

/-- Characters that a domain cannot hold. -/
def isForbidden (c : Char) : Bool :=
  c.toNat ≤ 0x20 || c.toNat == 0x7f ||
    ['%', '#', '/', ':', '<', '>', '?', '@', '[', '\\', ']', '^', '|'].contains c

/-- The letters that a domain has for those of a text. -/
def fold? (cs : List Char) : Option (List Char) := do
  let letters := Unicode.compose (← cs.mapM Unicode.fold).flatten
  if letters.any isForbidden then none else some letters

/-- Whether letters make a label: it does not begin with a mark, and its joiners are in their places.  Letters
beyond ASCII are written for at most a thousand. -/
def isProper (cs : List Char) : Bool :=
  !(cs.take 1).any Unicode.isMark && Unicode.joinersFit [] cs && (isAscii cs || cs.length ≤ 1000)

/-! ### Punycode texts -/

/-- The mark in front of a Punycode text. -/
def mark : List Char := ['x', 'n', '-', '-']

def behindMark? (cs : List Char) : Option (List Char) := if cs.take 4 = mark then some (cs.drop 4) else none

/-- The letters that a Punycode text of at most two thousand characters stands for.  It ends with a number, so
there is one beyond ASCII. -/
def decode? (cs : List Char) : Option (List Char) := do
  if cs = [] ∨ cs.getLast? = some '-' ∨ 2000 < cs.length then none
  else
    let letters ← Punycode.decode? cs
    if fold? letters = some letters ∧ !letters.contains '.' ∧ isProper letters then some letters else none

/-- Letters as they are written. -/
def write (cs : List Char) : List Char := if isAscii cs then cs else mark ++ Punycode.encode cs

/-! ### Reading -/

def ofAscii? (cs : List Char) : Option Label :=
  let cs := cs.map Char.toLower
  match behindMark? cs with
  | some code => (decode? code).map fun letters => ⟨letters, cs⟩
  | none => if cs.any isForbidden then none else some ⟨cs, cs⟩

/-- The label of folded letters without a dot. -/
def ofLetters? (cs : List Char) : Option Label :=
  match behindMark? cs with
  | some code => if isAscii code then (decode? code).map fun letters => ⟨letters, write letters⟩ else none
  | none => if isProper cs then some ⟨cs, write cs⟩ else none

/-- The labels of a text without a dot. -/
def read? (cs : List Char) : Option (List Label) :=
  if isAscii cs then (ofAscii? cs).map ([·]) else do (cut (· == '.') (← fold? cs)).mapM ofLetters?

end Label

end SessionVault.Url
