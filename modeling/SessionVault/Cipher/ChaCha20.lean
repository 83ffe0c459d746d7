import SessionVault.Bytes

/-!
# ChaCha20: a keystream from a key, a counter and a nonce

Sixteen words are mixed by twenty rounds (`ChaCha20.rounds`).  `ChaCha20.block` adds the start to the result
and is one block of keystream; `ChaCha20.subkey` keeps eight of the mixed words and turns the first sixteen
octets of a long nonce into a key of its own.  `ChaCha20.crypt` adds keystream to a text, and doing so twice
gives the text back (`crypt_crypt`).
-/

namespace SessionVault.Cipher.ChaCha20

def rotl (x n : UInt32) : UInt32 := (x <<< n) ||| (x >>> (32 - n))

/-- Mixes the four words at the given places. -/
def quarter (i j k l : Nat) (s : Array UInt32) : Array UInt32 :=
  let a := s.getD i 0
  let b := s.getD j 0
  let c := s.getD k 0
  let d := s.getD l 0
  let a := a + b
  let d := rotl (d ^^^ a) 16
  let c := c + d
  let b := rotl (b ^^^ c) 12
  let a := a + b
  let d := rotl (d ^^^ a) 8
  let c := c + d
  let b := rotl (b ^^^ c) 7
  (((s.setIfInBounds i a).setIfInBounds j b).setIfInBounds k c).setIfInBounds l d

def doubleRound (s : Array UInt32) : Array UInt32 :=
  let s := quarter 3 7 11 15 (quarter 2 6 10 14 (quarter 1 5 9 13 (quarter 0 4 8 12 s)))
  quarter 3 4 9 14 (quarter 2 7 8 13 (quarter 1 6 11 12 (quarter 0 5 10 15 s)))

def rounds (s : Array UInt32) : Array UInt32 := Nat.repeat doubleRound 10 s

def words (bs : Bytes) : List UInt32 :=
  (Bytes.blocks 4 bs).map fun w => UInt32.ofNat (Bytes.ofLittleEndian w)

/-- The four words that every start begins with. -/
def sigma : List UInt32 := [0x61707865, 0x3320646e, 0x79622d32, 0x6b206574]

/-- The start under a key of 32 octets; `tail` is the counter and the nonce, sixteen octets in all. -/
def start (key tail : Bytes) : Array UInt32 := (sigma ++ words key ++ words tail).toArray

def octets (s : Array UInt32) (range : List Nat) : Bytes :=
  range.flatMap fun i => Bytes.littleEndian 4 (s.getD i 0).toNat

def block (key nonce : Bytes) (n : Nat) : Bytes :=
  let s := start key (Bytes.littleEndian 4 n ++ nonce)
  octets (Array.zipWith (· + ·) s (rounds s)) (List.range 16)

@[simp] theorem length_block (key nonce : Bytes) (n : Nat) : (block key nonce n).length = 64 := by
  rw [block, octets, Bytes.length_flatMap _ (fun _ => Bytes.length_littleEndian _ _)]
  rfl

/-- The key that a key and the first sixteen octets of a long nonce make. -/
def subkey (key nonce : Bytes) : Bytes :=
  octets (rounds (start key (nonce.take 16))) [0, 1, 2, 3, 12, 13, 14, 15]

/-- As much keystream as covers `length` octets; it starts at block 1, as block 0 keys the tag. -/
def keystream (key nonce : Bytes) (length : Nat) : Bytes :=
  (List.range ((length + 63) / 64)).flatMap fun i => block key nonce (i + 1)

theorem length_keystream (key nonce : Bytes) (length : Nat) :
    length ≤ (keystream key nonce length).length := by
  have h : (keystream key nonce length).length = (length + 63) / 64 * 64 := by
    rw [keystream, Bytes.length_flatMap _ (fun _ => length_block _ _ _), List.length_range]
  omega

def crypt (key nonce text : Bytes) : Bytes := Bytes.xor text (keystream key nonce text.length)

@[simp] theorem length_crypt (key nonce text : Bytes) : (crypt key nonce text).length = text.length := by
  have := length_keystream key nonce text.length
  simp [crypt]
  omega

/-- Hiding a hidden text shows it. -/
theorem crypt_crypt (key nonce text : Bytes) : crypt key nonce (crypt key nonce text) = text := by
  rw [crypt, length_crypt, crypt, Bytes.xor_xor _ _ (length_keystream key nonce text.length)]

end SessionVault.Cipher.ChaCha20
