import SessionVault.Base64
import SessionVault.Cipher.Sealing
import SessionVault.Digest.Hmac
import SessionVault.Entropy
import SessionVault.Json.Decoder

/-!
# Envelopes: sealed texts that carry what opens them

An envelope is, in padded base64, a signature (only under a signing key), the nonce and the sealed text:

    [ HMAC-SHA256, 32 octets ][ nonce ][ hidden text and tag ]

The signature covers everything behind it.  `Envelope.wrap` makes the text for a nonce, `Envelope.unwrap`
takes it apart again and checks in this order: the base64 and its length, the signature, the tag.  Texts that are too
long for their cipher have no envelope and are left out, so that making one always succeeds.
`verified_signature` says that a signature made is a signature that passes.
-/

namespace SessionVault

def signatureSize : Nat := 32

/-- The octets that a signing key has at least. -/
def leastSigningKey : Nat := 32

/-- What envelopes are made with: a cipher, and perhaps a key that signs them. -/
structure Envelope where
  cipher : Cipher
  signingKey : Option Bytes
  length_signingKey : ∀ key, signingKey = some key → leastSigningKey ≤ key.length

namespace Envelope

def ofKeys (cipher : Cipher) : Option Bytes → Except Misconfiguration Envelope
  | none => .ok ⟨cipher, none, by simp⟩
  | some key =>
    if h : leastSigningKey ≤ key.length then .ok ⟨cipher, some key, by simpa using h⟩
    else .error (.signingKeyLength leastSigningKey)

def isSigned (e : Envelope) : Bool := e.signingKey.isSome

/-- The octets of an envelope with one octet of text. -/
def leastLength (e : Envelope) : Nat :=
  (if e.isSigned then signatureSize else 0) + e.cipher.algorithm.nonceSize + Cipher.tagSize + 1

def shownCipher (c : Cipher) : String := "Cipher(" ++ Quoted.ofString c.algorithm.name ++ ")"

/-- How an envelope is shown in messages: its secrets are left out. -/
def shown (e : Envelope) : String :=
  "CryptoEnvelope \x7b cipher: " ++ shownCipher e.cipher ++ ", signed: " ++ toString e.isSigned ++ " \x7d"

/-! ### Wrapping -/

/-- The signature of what follows it. -/
def signature (e : Envelope) (body : Bytes) : Bytes :=
  match e.signingKey with
  | some key => Digest.hmacSha256 key body
  | none => []

def octets (e : Envelope) (nonce text aad : Bytes) : Bytes :=
  let body := nonce ++ e.cipher.encrypt nonce text aad
  e.signature body ++ body

/-- The envelope of a text under a nonce.  As long as the text is not too long to seal (`Cipher.encrypt`), it cannot
fail. -/
def wrap (e : Envelope) (nonce text aad : Bytes) : String := Base64.encode (e.octets nonce text aad)

def write (e : Envelope) (text aad : Bytes) (entropy : Entropy) : String × Entropy :=
  let (nonce, entropy) := entropy.draw e.cipher.algorithm.nonceSize
  (e.wrap nonce text aad, entropy)

/-! ### Unwrapping -/

/-- The octets behind the signature, if it is right. -/
def verified (e : Envelope) (bs : Bytes) : Except Failure Bytes :=
  match e.signingKey with
  | none => .ok bs
  | some key =>
    let body := bs.drop signatureSize
    if bs.take signatureSize = Digest.hmacSha256 key body then .ok body else .error .signatureInvalid

def unwrap (e : Envelope) (envelope : String) (aad : Bytes) : Except Failure Bytes :=
  match Base64.decode? envelope with
  | none => .error .invalidData
  | some bs =>
    if bs.length < e.leastLength then .error .invalidData
    else
      match e.verified bs with
      | .error failure => .error failure
      | .ok body =>
        let nonceSize := e.cipher.algorithm.nonceSize
        match e.cipher.decrypt? (body.take nonceSize) (body.drop nonceSize) aad with
        | none => .error .encryptionFailed
        | some text => .ok text

def read {α : Type} (e : Envelope) (d : Decoder α) (envelope : String) (aad : Bytes) : Except Failure α := do
  let text ← e.unwrap envelope aad
  match decode d text with
  | .ok a => .ok a
  | .error fault => .error (.deserialization (fault.message text))

/-! ### Laws -/

theorem length_signature (e : Envelope) (body : Bytes) :
    (e.signature body).length = if e.isSigned then signatureSize else 0 := by
  cases h : e.signingKey <;> simp [signature, isSigned, h, signatureSize]

/-- The signature of an envelope is right. -/
theorem verified_signature (e : Envelope) (body : Bytes) : e.verified (e.signature body ++ body) = .ok body := by
  cases h : e.signingKey with
  | none => simp [verified, signature, h]
  | some key =>
    have hl : (Digest.hmacSha256 key body).length = signatureSize := by simp [signatureSize]
    simp only [verified, signature, h, ← hl, List.take_left, List.drop_left, if_true]

end Envelope

end SessionVault
