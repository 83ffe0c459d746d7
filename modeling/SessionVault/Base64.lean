import SessionVault.Bytes

/-!
# Base64: octets as symbols of six bits

Three octets are four sextets.  `Base64.sextets` cuts octets into sextets and `Base64.ofSextets?` joins
them again; the joining is strict, so the unused bits of a last, short group have to be zero.  Two spellings
are built on the pair:

* `Base64.encode` / `Base64.decode?` — the standard alphabet, padded with `=` to whole groups of four;
* `Base64.encodeUrl` / `Base64.decodeUrl?` — the alphabet that is safe in a URL, without padding.

`ofSextets?_sextets` says that joining undoes cutting, and `length_encodeUrl` gives the length of the
unpadded spelling.
-/

namespace SessionVault.Base64

/-! ### Sextets -/

/-- The sextets of an octet string; a last group of one or two octets is filled up with zero bits. -/
def sextets : Bytes → List Nat
  | a :: b :: c :: rest =>
    a.toNat / 4 :: (a.toNat % 4 * 16 + b.toNat / 16) :: (b.toNat % 16 * 4 + c.toNat / 64) ::
      c.toNat % 64 :: sextets rest
  | [a, b] => [a.toNat / 4, a.toNat % 4 * 16 + b.toNat / 16, b.toNat % 16 * 4]
  | [a] => [a.toNat / 4, a.toNat % 4 * 16]
  | [] => []

/-- The octets of a list of sextets; one sextet alone, or filling bits that are not zero, are refused. -/
def ofSextets? : List Nat → Option Bytes
  | w :: x :: y :: z :: rest =>
    (ofSextets? rest).map fun bs =>
      UInt8.ofNat (w * 4 + x / 16) :: UInt8.ofNat (x % 16 * 16 + y / 4) :: UInt8.ofNat (y % 4 * 64 + z) :: bs
  | [w, x, y] =>
    if y % 4 = 0 then some [UInt8.ofNat (w * 4 + x / 16), UInt8.ofNat (x % 16 * 16 + y / 4)] else none
  | [w, x] => if x % 16 = 0 then some [UInt8.ofNat (w * 4 + x / 16)] else none
  | [_] => none
  | [] => some []

theorem length_sextets (bs : Bytes) : (sextets bs).length = (bs.length * 4 + 2) / 3 := by
  fun_induction sextets bs with
  | case1 a b c rest ih => simp only [List.length_cons, ih]; omega
  | case2 a b => simp
  | case3 a => simp
  | case4 => rfl

/-- Joining the sextets of an octet string gives the octets back. -/
theorem ofSextets?_sextets (bs : Bytes) : ofSextets? (sextets bs) = some bs := by
  fun_induction sextets bs with
  | case1 a b c rest ih =>
    have ha := a.toNat_lt
    have hb := b.toNat_lt
    have hc := c.toNat_lt
    simp only [ofSextets?, ih, Option.map_some, Option.some.injEq, List.cons.injEq, and_true]
    refine ⟨?_, ?_, ?_⟩ <;> (apply UInt8.toNat_inj.mp; simp only [UInt8.toNat_ofNat']; omega)
  | case2 a b =>
    have ha := a.toNat_lt
    have hb := b.toNat_lt
    have h : b.toNat % 16 * 4 % 4 = 0 := by omega
    simp only [ofSextets?, h, if_true, Option.some.injEq, List.cons.injEq, and_true]
    refine ⟨?_, ?_⟩ <;> (apply UInt8.toNat_inj.mp; simp only [UInt8.toNat_ofNat']; omega)
  | case3 a =>
    have ha := a.toNat_lt
    have h : a.toNat % 4 * 16 % 16 = 0 := by omega
    simp only [ofSextets?, h, if_true, Option.some.injEq, List.cons.injEq, and_true]
    apply UInt8.toNat_inj.mp
    simp only [UInt8.toNat_ofNat']
    omega
  | case4 => rfl

/-! ### Alphabets -/

/-- The symbol of a sextet: letters, digits, then the two `extra` symbols of the alphabet. -/
def symbol (extra : Char × Char) (n : Nat) : Char :=
  if n < 26 then Char.ofNat (65 + n)
  else if n < 52 then Char.ofNat (97 + (n - 26))
  else if n < 62 then Char.ofNat (48 + (n - 52))
  else if n = 62 then extra.1 else extra.2

def value? (extra : Char × Char) (c : Char) : Option Nat :=
  if 'A' ≤ c ∧ c ≤ 'Z' then some (c.toNat - 65)
  else if 'a' ≤ c ∧ c ≤ 'z' then some (c.toNat - 97 + 26)
  else if '0' ≤ c ∧ c ≤ '9' then some (c.toNat - 48 + 52)
  else if c = extra.1 then some 62
  else if c = extra.2 then some 63
  else none

/-- The last two symbols of the standard alphabet. -/
def standard : Char × Char := ('+', '/')

/-- The last two symbols of the alphabet that is safe in a URL. -/
def urlSafe : Char × Char := ('-', '_')

/-! ### The padded spelling -/

/-- The padding that completes a spelling of `n` symbols to whole groups of four. -/
def padding (n : Nat) : List Char := List.replicate ((4 - n % 4) % 4) '='

/-- The padded spelling in the standard alphabet. -/
def encode (bs : Bytes) : String :=
  let symbols := (sextets bs).map (symbol standard)
  String.ofList (symbols ++ padding symbols.length)

/-- The symbols of a padded spelling, with at most two `=` taken off its last group of four. -/
def unpad? : List Char → Option (List Char)
  | [] => some []
  | w :: x :: y :: z :: rest =>
    if rest = [] ∧ z = '=' then
      if y = '=' then some [w, x] else some [w, x, y]
    else (unpad? rest).map fun cs => w :: x :: y :: z :: cs
  | _ => none

/-- The octets of a padded spelling.  Padding is required and nothing outside the alphabet is skipped. -/
def decode? (text : String) : Option Bytes := do
  let symbols ← unpad? text.toList
  ofSextets? (← symbols.mapM (value? standard))

/-! ### The unpadded spelling -/

/-- The spelling that is safe in a URL, without padding. -/
def encodeUrl (bs : Bytes) : String := String.ofList ((sextets bs).map (symbol urlSafe))

/-- The octets of an unpadded spelling.  Padding is refused like any other character outside the alphabet. -/
def decodeUrl? (text : String) : Option Bytes := do
  ofSextets? (← text.toList.mapM (value? urlSafe))

theorem length_encodeUrl (bs : Bytes) : (encodeUrl bs).length = (bs.length * 4 + 2) / 3 := by
  simp [encodeUrl, length_sextets]

end SessionVault.Base64
