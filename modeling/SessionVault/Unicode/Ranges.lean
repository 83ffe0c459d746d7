/-!
# Ranges: values that hold from one code point to the next

A property of letters changes only here and there, so a table of it names the code points where a value begins
to hold; it holds up to the next one named.

* `Ranges.read` — a table from its text, entries between blanks: a code point in upper-case hexadecimal digits
  and a value behind them, or a value alone, which begins right behind the entry before it;
* `Ranges.entry?` — the entry that a code point falls under, by halving.
-/

namespace SessionVault.Unicode

/-- Values, each with the code point where it begins to hold, in ascending order. -/
structure Ranges (α : Type) where
  entries : Array (Nat × α)

namespace Ranges

variable {α : Type}

/-! ### Looking up -/

/-- How many entries begin at a code point or before it, where those in front of `low` do and those from `high`
on do not. -/
def reach (r : Ranges α) (n low high : Nat) : Nat :=
  if low < high then
    match r.entries[(low + high) / 2]? with
    | some e => if e.1 ≤ n then reach r n ((low + high) / 2 + 1) high else reach r n low ((low + high) / 2)
    | none => low
  else low
termination_by high - low

/-- The entry with a position, counted from one. -/
def nth? (r : Ranges α) : Nat → Option (Nat × α)
  | 0 => none
  | k + 1 => r.entries[k]?

/-- The last entry that begins at a code point or before it. -/
def entry? (r : Ranges α) (n : Nat) : Option (Nat × α) := r.nth? (r.reach n 0 r.entries.size)

def value? (r : Ranges α) (n : Nat) : Option α := (r.entry? n).map (·.2)

/-- The value of an entry that begins at a code point. -/
def startingAt? (r : Ranges α) (n : Nat) : Option α :=
  match r.entry? n with
  | some (m, a) => if m = n then some a else none
  | none => none

/-! ### Reading -/

def isHexDigit (c : Char) : Bool := c.isDigit || ('A' ≤ c && c ≤ 'F')

def ofHex (cs : List Char) : Nat :=
  cs.foldl (fun n c => 16 * n + (if c.isDigit then c.toNat - 48 else c.toNat - 55)) 0

/-- The entries so far, with one more. -/
def pushEntry (value : List Char → α) (es : Array (Nat × α)) (word : List Char) : Array (Nat × α) :=
  let digits := word.takeWhile isHexDigit
  let start :=
    if digits.isEmpty then
      match es.back? with
      | some e => e.1 + 1
      | none => 0
    else ofHex digits
  es.push (start, value (word.drop digits.length))

/-- The entries so far and the letters of a word that has not ended, the last one first. -/
structure Reading (α : Type) where
  entries : Array (Nat × α)
  word : List Char

def Reading.endWord (value : List Char → α) (s : Reading α) : Reading α :=
  match s.word with
  | [] => s
  | word => ⟨pushEntry value s.entries word.reverse, []⟩

def Reading.step (value : List Char → α) (s : Reading α) (c : Char) : Reading α :=
  if c.isWhitespace then s.endWord value else { s with word := c :: s.word }

def read (value : List Char → α) (text : String) : Ranges α :=
  ⟨((text.toList.foldl (Reading.step value) ⟨#[], []⟩).endWord value).entries⟩

end Ranges

end SessionVault.Unicode
