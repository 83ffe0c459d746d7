import SessionVault.Bytes

/-!
# Percent signs: characters that a part of a URL cannot hold

A part of a URL hides the octets of some characters behind percent signs and two upper-case digits.  Which
ones, depends on the part: each set below holds the one above it.  A percent sign itself is never hidden, so
a text that is hidden already stays as it is (`percentEncode_of_shown`).
-/

namespace SessionVault.Url

/-! ### Sets -/

/-- Octets that are hidden everywhere: control characters and everything beyond ASCII. -/
def isControl (b : UInt8) : Bool := b < 0x20 || 0x7f ≤ b

/-- Whether an octet is that of one of some ASCII characters. -/
def isOneOf (cs : List Char) (b : UInt8) : Bool := cs.any fun c => UInt8.ofNat c.toNat == b

def inFragment (b : UInt8) : Bool := isControl b || isOneOf [' ', '"', '<', '>', '`'] b

def inQuery (b : UInt8) : Bool := isControl b || isOneOf [' ', '"', '#', '<', '>'] b

def inSpecialQuery (b : UInt8) : Bool := inQuery b || isOneOf ['\''] b

def inPath (b : UInt8) : Bool := inFragment b || isOneOf ['#', '?', Char.ofNat 0x7b, Char.ofNat 0x7d] b

def inUserinfo (b : UInt8) : Bool :=
  inPath b || isOneOf ['/', ':', ';', '=', '@', '[', '\\', ']', '^', '|'] b

/-! ### Hiding -/

def upperDigit (n : Nat) : Char := if n < 10 then Char.ofNat (48 + n) else Char.ofNat (55 + n)

def percentOctet (b : UInt8) : List Char := ['%', upperDigit (b.toNat / 16), upperDigit (b.toNat % 16)]

/-- A character, with its octets hidden if they are in a set. -/
def percentChar (hidden : UInt8 → Bool) (c : Char) : List Char :=
  if c.toNat < 0x80 ∧ !hidden (UInt8.ofNat c.toNat) then [c]
  else (Bytes.ofString (String.singleton c)).flatMap percentOctet

/-- A text with the octets of a set hidden. -/
def percentEncode (hidden : UInt8 → Bool) (cs : List Char) : List Char := cs.flatMap (percentChar hidden)

def isShown (hidden : UInt8 → Bool) (c : Char) : Bool := c.toNat < 0x80 && !hidden (UInt8.ofNat c.toNat)

/-- A text without anything to hide stays as it is. -/
theorem percentEncode_of_shown {hidden : UInt8 → Bool} {cs : List Char} (h : ∀ c ∈ cs, isShown hidden c) :
    percentEncode hidden cs = cs := by
  induction cs with
  | nil => rfl
  | cons c cs ih =>
    have hc : c.toNat < 0x80 ∧ (!hidden (UInt8.ofNat c.toNat)) = true := by
      simpa [isShown] using h c List.mem_cons_self
    simp only [percentEncode, List.flatMap_cons, percentChar, hc, and_self, if_true, List.singleton_append,
      List.cons.injEq, true_and]
    exact ih fun d hd => h d (List.mem_cons_of_mem c hd)

/-! ### Showing -/

/-- The octets of a text with hidden octets; a percent sign without two digits stands for itself. -/
def percentDecode : Bytes → Bytes
  | [] => []
  | b :: rest =>
    if b = 0x25 then
      match rest with
      | h :: l :: tail =>
        match Bytes.hexValue? (Char.ofNat h.toNat), Bytes.hexValue? (Char.ofNat l.toNat) with
        | some h, some l => UInt8.ofNat (16 * h + l) :: percentDecode tail
        | _, _ => b :: percentDecode (h :: l :: tail)
      | rest => b :: percentDecode rest
    else b :: percentDecode rest

end SessionVault.Url
