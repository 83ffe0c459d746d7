import SessionVault.Cipher.Aes

/-!
# GCM: counter mode with a polynomial tag

The text is added to a keystream made of encrypted counter blocks (`Gcm.crypt`), and the tag is a polynomial
in the field of `2 ^ 128` elements over the associated data and the sealed text (`Gcm.tag`).  The keystream
does not depend on the text, so adding it twice gives the text back (`crypt_crypt`).
-/

namespace SessionVault.Cipher.Gcm

/-! ### The field of the tag -/

/-- The reducing polynomial, most significant coefficient last. -/
def reduction : Nat := 0xe1 <<< 120

/-- One step of the product: the partial sum, the multiplier shifted so far, and the bit of `x` at `i`. -/
def step (x : Nat) (i : Nat) (zv : Nat × Nat) : Nat × Nat :=
  let (z, v) := zv
  let z := if x.testBit (127 - i) then z ^^^ v else z
  let v := if v % 2 = 1 then (v >>> 1) ^^^ reduction else v >>> 1
  (z, v)

/-- The product of two elements, each given by the number its sixteen octets spell. -/
def mul (x y : Nat) : Nat :=
  ((List.range 128).foldl (fun zv i => step x i zv) (0, y)).1

/-- The polynomial in `h` whose coefficients are the blocks of `bs`. -/
def polynomial (h : Nat) (bs : Bytes) : Nat :=
  (Bytes.blocks 16 bs).foldl (fun y b => mul (y ^^^ Bytes.ofBigEndian b) h) 0

/-! ### Counter mode -/

/-- The counter block with number `n` under a nonce of twelve octets. -/
def counter (nonce : Bytes) (n : Nat) : Bytes := nonce ++ Bytes.bigEndian 4 n

/-- As much keystream as covers `length` octets; it starts at counter 2, as counter 1 masks the tag. -/
def keystream (keys : List Aes.Block) (nonce : Bytes) (length : Nat) : Bytes :=
  (List.range ((length + 15) / 16)).flatMap fun i => Aes.encrypt keys (counter nonce (i + 2))

theorem length_keystream (keys : List Aes.Block) (nonce : Bytes) (length : Nat) :
    length ≤ (keystream keys nonce length).length := by
  have h : (keystream keys nonce length).length = (length + 15) / 16 * 16 := by
    rw [keystream, Bytes.length_flatMap _ (fun _ => Aes.length_encrypt _ _), List.length_range]
  omega

/-- The text added to the keystream: this both hides a text and shows it again. -/
def crypt (keys : List Aes.Block) (nonce text : Bytes) : Bytes :=
  Bytes.xor text (keystream keys nonce text.length)

@[simp] theorem length_crypt (keys : List Aes.Block) (nonce text : Bytes) :
    (crypt keys nonce text).length = text.length := by
  have := length_keystream keys nonce text.length
  simp [crypt]
  omega

/-- Hiding a hidden text shows it. -/
theorem crypt_crypt (keys : List Aes.Block) (nonce text : Bytes) :
    crypt keys nonce (crypt keys nonce text) = text := by
  rw [crypt, length_crypt, crypt, Bytes.xor_xor _ _ (length_keystream keys nonce text.length)]

/-! ### The tag -/

/-- The sixteen octets that authenticate the associated data and the sealed text. -/
def tag (keys : List Aes.Block) (nonce aad sealed : Bytes) : Bytes :=
  let h := Bytes.ofBigEndian (Aes.encrypt keys (List.replicate 16 0))
  let lengths := Bytes.bigEndian 8 (8 * aad.length) ++ Bytes.bigEndian 8 (8 * sealed.length)
  let s := polynomial h (Bytes.padTo 16 aad ++ Bytes.padTo 16 sealed ++ lengths)
  Bytes.xor (Bytes.bigEndian 16 s) (Aes.encrypt keys (counter nonce 1))

@[simp] theorem length_tag (keys : List Aes.Block) (nonce aad sealed : Bytes) :
    (tag keys nonce aad sealed).length = 16 := by
  simp [tag]

end SessionVault.Cipher.Gcm
