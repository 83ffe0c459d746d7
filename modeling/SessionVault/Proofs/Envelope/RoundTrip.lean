import SessionVault.Proofs.Envelope.Stages
import SessionVault.Proofs.Json.Whole

/-!
# Values sealed and read again

A payload is sealed as the envelope of its text.  The octets of an envelope lie one behind the other, and what each of
them is follows from the keys, the nonce, the text and the associated data (`Layout`).  A JSON value whose numbers are
integers is read from its envelope as it was sealed, exactly if it is nested no deeper than a text may be.

* `enclose` — the envelope of a payload under a nonce that is drawn;
* `layout_wrap` — the octets of an envelope;
* `decode_render_of_shallow`, `decode_render_of_deep` — the text of a whole value, decoded;
* `read_enclose` — the law of sealing and reading.
-/

namespace SessionVault.Envelope

open Json

variable {v : Json} {nonce plain : Bytes}

/-- The envelope of a payload under a nonce that is drawn, if the payload has a text. -/
def enclose (e : Envelope) (p : Payload) (aad : Bytes) (entropy : Entropy) : Except Failure String :=
  p.encode.map fun plain => (e.write plain aad entropy).1

/-- A JSON value always has a text. -/
theorem enclose_json (e : Envelope) (v : Json) (aad : Bytes) (entropy : Entropy) :
    e.enclose (.json v) aad entropy =
      .ok (e.wrap (entropy.draw e.cipher.algorithm.nonceSize).1 v.render aad) := by
  rw [enclose, Payload.encode]
  rfl

/-! ### Octets in their order -/

/-- A text spells the signature of all that follows, if there is a signing key, then a nonce, as many hidden octets as
the plain text has, and the tag. -/
structure Layout (e : Envelope) (nonce plain aad : Bytes) (text : String) (signature hidden tag : Bytes) : Prop where
  decode : Base64.decode? text = some (signature ++ nonce ++ hidden ++ tag)
  signed : ∀ key, e.signingKey = some key → signature = Digest.hmacSha256 key (nonce ++ (hidden ++ tag))
  unsigned : e.signingKey = none → signature = []
  sealed : hidden ++ tag = e.cipher.encrypt nonce plain aad
  length_nonce : nonce.length = e.cipher.algorithm.nonceSize
  length_hidden : hidden.length = plain.length
  length_tag : tag.length = 16

theorem layout_wrap (e : Envelope) (plain aad : Bytes) (hnonce : nonce.length = e.cipher.algorithm.nonceSize) :
    e.Layout nonce plain aad (e.wrap nonce plain aad) (e.signature (nonce ++ e.cipher.encrypt nonce plain aad))
      (e.cipher.crypt nonce plain) (e.cipher.tag nonce aad (e.cipher.crypt nonce plain)) where
  decode := by
    rw [wrap, Base64.decode?_encode, octets, List.append_assoc, List.append_assoc]
    rfl
  signed := by
    intro key hkey
    rw [Envelope.signature, hkey]
    rfl
  unsigned := by
    intro hkey
    rw [Envelope.signature, hkey]
  sealed := rfl
  length_nonce := hnonce
  length_hidden := Cipher.length_crypt _ _ _
  length_tag := Cipher.length_tag _ _ _ _

/-- The octets of a text are those of its signature, of its nonce, of the plain text and sixteen more. -/
theorem Layout.length {e : Envelope} {aad signature hidden tag : Bytes} {text : String}
    (h : e.Layout nonce plain aad text signature hidden tag) :
    (signature ++ nonce ++ hidden ++ tag).length =
      (if e.isSigned then 32 else 0) + e.cipher.algorithm.nonceSize + plain.length + 16 := by
  have hsignature : signature.length = if e.isSigned then 32 else 0 := by
    cases hkey : e.signingKey with
    | none =>
      rw [h.unsigned hkey, isSigned, hkey]
      rfl
    | some key =>
      rw [h.signed key hkey, isSigned, hkey, Digest.length_hmacSha256]
      rfl
  simp only [List.length_append, hsignature, h.length_nonce, h.length_hidden, h.length_tag]

/-- A text is as long as an envelope has to be as soon as it hides an octet. -/
theorem Layout.leastLength_le {e : Envelope} {aad signature hidden tag : Bytes} {text : String}
    (h : e.Layout nonce plain aad text signature hidden tag) (hplain : plain ≠ []) :
    e.leastLength ≤ (signature ++ nonce ++ hidden ++ tag).length := by
  have hpos := List.length_pos_iff.mpr hplain
  rw [h.length]
  show (if e.isSigned then 32 else 0) + e.cipher.algorithm.nonceSize + 16 + 1 ≤ _
  omega

/-! ### Texts of whole values -/

/-- The decoder finds in the text of a whole value that value, if it may enter it to its end. -/
theorem toOption_decode_render (hv : v.Whole) :
    (decode Decoder.json v.render).toOption = if v.depth ≤ maxDepth then some v else none := by
  rw [decode, Tree.read?_render]
  show (Decoder.json maxDepth (Tree.written v [])).toOption = _
  rw [Decoder.toOption_json_written, (again_eq_iff v).mpr (settled_of_whole v hv)]

theorem decode_render_of_shallow (hv : v.Whole) (hdepth : v.depth ≤ maxDepth) :
    decode Decoder.json v.render = .ok v := by
  rw [Decoder.eq_ok_iff, toOption_decode_render hv, if_pos hdepth]

theorem decode_render_of_deep (hv : v.Whole) (hdepth : ¬v.depth ≤ maxDepth) :
    ∃ fault, decode Decoder.json v.render = .error fault := by
  have hnone := toOption_decode_render hv
  rw [if_neg hdepth] at hnone
  cases hdecode : decode Decoder.json v.render with
  | ok w =>
    rw [hdecode] at hnone
    cases hnone
  | error fault => exact ⟨fault, rfl⟩

/-! ### Sealing and reading -/

/-- A value whose numbers are integers of 64 bits is sealed under any keys, associated data and nonce.  The text spells
the signature, the nonce, the hidden octets and the tag, and is long enough for an envelope.  Under the same associated
data the value is read from it again if it is nested at most `maxDepth` deep, and otherwise it does not decode. -/
theorem read_enclose (e : Envelope) {v : Json} (hv : v.Whole) (aad : Bytes) (entropy : Entropy) :
    ∃ text signature hidden tag, e.enclose (.json v) aad entropy = .ok text ∧
      e.Layout (entropy.draw e.cipher.algorithm.nonceSize).1 v.render aad text signature hidden tag ∧
      (∀ octets, Base64.decode? text = some octets →
        octets.length = (if e.isSigned then 32 else 0) + e.cipher.algorithm.nonceSize + v.render.length + 16 ∧
          e.leastLength ≤ octets.length) ∧
      (v.depth ≤ maxDepth → e.read Decoder.json text aad = .ok v) ∧
      (¬v.depth ≤ maxDepth → ∃ message, e.read Decoder.json text aad = .error (.deserialization message)) := by
  have hnonce := Entropy.length_draw e.cipher.algorithm.nonceSize entropy
  have hplain : v.render ≠ [] := List.ne_nil_of_length_pos (Tree.length_render_pos v)
  have hlayout := layout_wrap e v.render aad hnonce
  have hread := e.read_wrap Decoder.json aad hnonce hplain
  refine ⟨_, _, _, _, enclose_json e v aad entropy, hlayout, ?_, ?_, ?_⟩
  · intro octets hoctets
    rw [hlayout.decode] at hoctets
    cases hoctets
    exact ⟨hlayout.length, hlayout.leastLength_le hplain⟩
  · intro hdepth
    rw [hread, decode_render_of_shallow hv hdepth]
    rfl
  · intro hdepth
    obtain ⟨fault, hfault⟩ := decode_render_of_deep hv hdepth
    refine ⟨fault.message v.render, ?_⟩
    rw [hread, hfault]
    rfl

theorem length_signedSampleKey :
    ∀ key, some (List.replicate 32 2 : Bytes) = some key → leastSigningKey ≤ key.length := by
  intro key h
  cases h
  decide

/-- Envelopes that are signed, under nonces of the long kind. -/
def signedSample : Envelope :=
  ⟨⟨.xChaCha20Poly1305, List.replicate 32 1, rfl⟩, some (List.replicate 32 2), length_signedSampleKey⟩

/-- An object with an empty key, characters that are escaped, and the least and the greatest integer. -/
def sampleValue : Json :=
  .object [("", .array [.int (-0x8000000000000000), .string "\"\n"]), ("k", .int 0xffffffffffffffff)]

theorem read_enclose_sample : sampleValue.Whole ∧
    ∃ text, signedSample.enclose (.json sampleValue) [7] (.ofSeed [] 3) = .ok text ∧
      signedSample.read Decoder.json text [7] = .ok sampleValue := by
  have hwhole : sampleValue.Whole := by
    refine ⟨⟨⟨rfl, trivial, trivial⟩, rfl, trivial⟩, ?_⟩
    rw [Table.Ascending]
    decide
  obtain ⟨text, -, -, -, htext, -, -, hread, -⟩ := read_enclose signedSample hwhole [7] (.ofSeed [] 3)
  exact ⟨hwhole, text, htext, hread (by decide)⟩

end SessionVault.Envelope
