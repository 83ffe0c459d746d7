import SessionVault.Envelope
import SessionVault.Proofs.Base64

/-!
# Envelopes opened again

What is wrapped under a nonce of the right length opens to the same text, under every cipher and with a signature or
without (`unwrap_wrap`).  The layers are undone one after the other: the padded base64 (`Base64.decode?_encode`), the
signature (`Envelope.verified_signature`) and the cipher (`Cipher.decrypt?_encrypt`).
-/

namespace SessionVault

namespace Envelope

theorem length_octets (e : Envelope) (nonce text aad : Bytes) :
    (e.octets nonce text aad).length =
      (if e.isSigned then signatureSize else 0) + nonce.length + Cipher.tagSize + text.length := by
  rw [octets, List.length_append, length_signature, List.length_append, Cipher.length_encrypt]
  omega

/-- What is wrapped opens again. -/
theorem unwrap_wrap (e : Envelope) {nonce text : Bytes} (aad : Bytes)
    (hnonce : nonce.length = e.cipher.algorithm.nonceSize) (htext : text ≠ []) :
    e.unwrap (e.wrap nonce text aad) aad = .ok text := by
  have hpos : 0 < text.length := List.length_pos_iff.mpr htext
  have hlen : ¬(e.octets nonce text aad).length < e.leastLength := by
    rw [length_octets, leastLength, hnonce]
    omega
  have hverified : e.verified (e.octets nonce text aad) = .ok (nonce ++ e.cipher.encrypt nonce text aad) :=
    verified_signature e _
  rw [unwrap, wrap, Base64.decode?_encode]
  simp only [if_neg hlen, hverified, ← hnonce, List.take_left, List.drop_left, Cipher.decrypt?_encrypt]

/-- A value is read from an envelope as it is decoded from the text in it. -/
theorem read_wrap {α : Type} (e : Envelope) (d : Decoder α) {nonce text : Bytes} (aad : Bytes)
    (hnonce : nonce.length = e.cipher.algorithm.nonceSize) (htext : text ≠ []) :
    e.read d (e.wrap nonce text aad) aad =
      (decode d text).mapError fun fault => Failure.deserialization (fault.message text) := by
  rw [read, unwrap_wrap e aad hnonce htext]
  simp only [bind, Except.bind]
  cases decode d text with
  | ok a => rfl
  | error fault => rfl

end Envelope

end SessionVault
