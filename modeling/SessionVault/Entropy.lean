import SessionVault.Bytes

/-!
# Entropy: the source of random octets

Every random octet (an identifier, a key, a nonce) is drawn from one source, one octet after another and
none skipped.  An `Entropy` is a list of octets to be drawn first and the state of a `splitmix64` generator
that is asked, eight octets at a time, once they are used up.  `Entropy.draw` takes a number of octets and
leaves the source that the next draw starts from; `length_draw` says that it always has enough, and `draw_append`
that what is to be drawn first is drawn first.
-/

namespace SessionVault

/-- A source of random octets. -/
structure Entropy where
  /-- The octets that are drawn next. -/
  pending : Bytes
  /-- The state of the generator behind them. -/
  state : UInt64

namespace Entropy

/-- The source that gives `lead` first and then the generator's output from `seed` on. -/
def ofSeed (lead : Bytes) (seed : UInt64) : Entropy := ⟨lead, seed⟩

def mix (s : UInt64) : UInt64 :=
  let z := (s ^^^ (s >>> 30)) * 0xBF58476D1CE4E5B9
  let z := (z ^^^ (z >>> 27)) * 0x94D049BB133111EB
  z ^^^ (z >>> 31)

/-- Draws one octet, asking the generator when none is pending. -/
def next (e : Entropy) : UInt8 × Entropy :=
  match e.pending with
  | b :: rest => (b, ⟨rest, e.state⟩)
  | [] =>
    let s := e.state + 0x9E3779B97F4A7C15
    let word := mix s
    (word.toUInt8, ⟨(Bytes.littleEndian 8 word.toNat).drop 1, s⟩)

def draw : Nat → Entropy → Bytes × Entropy
  | 0, e => ([], e)
  | n + 1, e =>
    let (b, e) := e.next
    let (bs, e) := draw n e
    (b :: bs, e)

/-- As many octets are drawn as are asked for. -/
@[simp] theorem length_draw (n : Nat) (e : Entropy) : (draw n e).1.length = n := by
  induction n generalizing e with
  | zero => rfl
  | succ n ih => simp [draw, ih]

/-- Octets that are pending are drawn as they stand, and nothing behind them is touched. -/
theorem draw_append (octets rest : Bytes) (state : UInt64) :
    draw octets.length ⟨octets ++ rest, state⟩ = (octets, ⟨rest, state⟩) := by
  induction octets with
  | nil => rfl
  | cons b octets ih =>
    rw [List.length_cons, List.cons_append, draw]
    simp only [next, ih]

end Entropy

end SessionVault
