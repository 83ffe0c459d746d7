import SessionVault.Unicode.Direction
import SessionVault.Url.Label

/-!
# Domains: labels and the dots between them

A domain is cut at its dots, and what stands between them is read as labels.  Where a letter of any label runs
from right to left, each label has to run in one direction.

* `labels?` — the labels of a domain;
* `domain?` — its one spelling, in ASCII.
-/

namespace SessionVault.Url

def Label.hasRightToLeft (l : Label) : Bool := l.letters.any Unicode.isRightToLeft

/-- Whether the labels of a domain can be read in one order only. -/
def runInOrder (labels : List Label) : Bool :=
  !labels.any Label.hasRightToLeft || labels.all fun l => Unicode.runsOneWay l.letters

def labels? (cs : List Char) : Option (List Label) := do
  let labels := (← (cut (· == '.') cs).mapM Label.read?).flatten
  if runInOrder labels then some labels else none

def domain? (cs : List Char) : Option (List Char) := do
  return (List.intersperse ['.'] ((← labels? cs).map Label.ascii)).flatten

end SessionVault.Url
