import SessionVault.Unicode.FoldingTable
import SessionVault.Unicode.Ranges

/-!
# Folding: one spelling for letters that a name does not tell apart

Names do not tell upper case from lower case, nor a letter from its forms of compatibility: wide and narrow
ones, ligatures, letters in circles or in the type of mathematics.

* `Rule` — what happens to the letters of a range; `rules` — the rules for all of them;
* `fold` — the letters that a name has for one, which are none for a letter that cannot be seen; what no name can
  hold is refused.
-/

namespace SessionVault.Unicode

/-- How the letters of a range are folded. -/
inductive Rule where
  /-- As they are: a point. -/
  | kept
  /-- Left out: an asterisk. -/
  | dropped
  /-- Refused: an exclamation mark. -/
  | refused
  /-- In pairs from the first one on, each as the second of its pair: a tilde. -/
  | paired
  /-- As the letters that follow at a distance: a plus sign and the distance. -/
  | raised (distance : Nat)
  /-- As the letters in front at a distance: a minus sign and the distance. -/
  | lowered (distance : Nat)
  /-- As other letters: an equals sign and their code points, with commas between. -/
  | replaced (letters : List Char)

/-- The letter of a code point in hexadecimal digits. -/
def letterOf (digits : List Char) : Char := Char.ofNat (Ranges.ofHex digits)

def lettersOf (cs : List Char) : List Char :=
  let (word, letters) := cs.foldr
    (fun c (word, letters) => if c = ',' then ([], letterOf word :: letters) else (c :: word, letters)) ([], [])
  letterOf word :: letters

/-- The rule that a sign and what follows it spell. -/
def Rule.read : List Char → Rule
  | '.' :: _ => kept
  | '*' :: _ => dropped
  | '~' :: _ => paired
  | '+' :: ds => raised (Ranges.ofHex ds)
  | '-' :: ds => lowered (Ranges.ofHex ds)
  | '=' :: cs => replaced (lettersOf cs)
  | _ => refused

/-- The letters for one of a range that begins at `start`. -/
def Rule.apply (start : Nat) (c : Char) : Rule → Option (List Char)
  | kept => some [c]
  | dropped => some []
  | refused => none
  | paired => some [if (c.toNat - start) % 2 = 0 then Char.ofNat (c.toNat + 1) else c]
  | raised distance => some [Char.ofNat (c.toNat + distance)]
  | lowered distance => some [Char.ofNat (c.toNat - distance)]
  | replaced letters => some letters

def rules : Ranges Rule := Ranges.read Rule.read foldings

/-- The letters that a name has for one, if it can hold it. -/
def fold (c : Char) : Option (List Char) :=
  match rules.entry? c.toNat with
  | some (start, rule) => rule.apply start c
  | none => none

end SessionVault.Unicode
