import SessionVault.Cipher.ChaCha20

/-!
# Poly1305: the tag beside ChaCha20

The message is read as the coefficients of a polynomial modulo `Nat.pow 2 130 - 5`, which is taken at a clamped
point and masked (`Poly1305.mac`).  Beside ChaCha20 the point and the mask are the first keystream block, and
the message is the associated data, the sealed text and their lengths (`Poly1305.tag`).
-/

namespace SessionVault.Cipher.Poly1305

def prime : Nat := Nat.pow 2 130 - 5

/-- The bits that a point may have. -/
def clamp : Nat := 0x0ffffffc0ffffffc0ffffffc0fffffff

/-- The sixteen octets of a message under a one-time key of 32. -/
def mac (key message : Bytes) : Bytes :=
  let r := Bytes.ofLittleEndian (key.take 16) &&& clamp
  let s := Bytes.ofLittleEndian (key.drop 16)
  let sum := (Bytes.blocks 16 message).foldl
    (fun acc b => (acc + Bytes.ofLittleEndian (b ++ [1])) * r % prime) 0
  Bytes.littleEndian 16 (sum + s)

@[simp] theorem length_mac (key message : Bytes) : (mac key message).length = 16 := by simp [mac]

/-- The octets that authenticate the associated data and the sealed text. -/
def tag (key nonce aad sealed : Bytes) : Bytes :=
  let lengths := Bytes.littleEndian 8 aad.length ++ Bytes.littleEndian 8 sealed.length
  mac ((ChaCha20.block key nonce 0).take 32) (Bytes.padTo 16 aad ++ Bytes.padTo 16 sealed ++ lengths)

@[simp] theorem length_tag (key nonce aad sealed : Bytes) : (tag key nonce aad sealed).length = 16 :=
  length_mac _ _

end SessionVault.Cipher.Poly1305
