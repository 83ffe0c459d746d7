import SessionVault.Proofs.Envelope.Stages

/-!
# One text for each envelope

Every layer of an envelope has one spelling, so a text that opens is the text that wrapping makes of its nonce, of the
octets in it and of the associated data.  Whatever else is done to a text that is signed, by those who cannot sign, it
is refused before it is opened.

* `accept_eq_ok_iff` — the texts that are accepted are those of signed octets;
* `unwrap_eq_ok_iff` — the texts that open are those that are wrapped;
* `Forges` — a text that signs octets other than given ones;
* `read_refused_iff` — of all texts but one, exactly the forgeries of its octets are not refused;
* `spelt_once` — all of this as one law.
-/

namespace SessionVault.Envelope

variable {α : Type} {e : Envelope} {d : Decoder α} {text : String} {aad signature nonce sealed body plain : Bytes}

/-! ### Texts that are accepted -/

/-- Octets that are long enough have the parts of an envelope behind their signature. -/
theorem parts_encode (hbody : e.cipher.algorithm.nonceSize + Cipher.tagSize < body.length)
    (hsignature : signature.length = e.signedSize) :
    e.Parts (Base64.encode (signature ++ body)) signature (body.take e.cipher.algorithm.nonceSize)
      (body.drop e.cipher.algorithm.nonceSize) where
  decode := by rw [List.take_append_drop, Base64.decode?_encode]
  length_signature := hsignature
  length_nonce := by
    rw [List.length_take]
    omega
  length_sealed := by
    rw [List.length_drop]
    omega

theorem accept_eq_ok_iff : e.accept text = .ok body ↔
    e.cipher.algorithm.nonceSize + Cipher.tagSize < body.length ∧ text = Base64.encode (e.signature body ++ body) := by
  constructor
  · intro h
    rcases accept_cases e text with ⟨-, haccept⟩ | ⟨signature, nonce, sealed, hparts, ⟨-, haccept⟩ | ⟨hsigned, haccept⟩⟩
    · rw [haccept] at h
      cases h
    · rw [haccept] at h
      cases h
    · rw [haccept] at h
      cases h
      have hsealed := hparts.length_sealed
      refine ⟨?_, ?_⟩
      · rw [List.length_append, hparts.length_nonce]
        omega
      · rw [← hparts.signature_iff.mpr hsigned]
        exact Base64.decode?_eq_some_iff.mp hparts.decode
  · rintro ⟨hbody, rfl⟩
    have hparts := parts_encode hbody (e.length_signature body)
    rw [accept_of_parts hparts, List.take_append_drop, if_pos rfl]

/-! ### Texts that open -/

/-- The texts that open are those that are wrapped, under a nonce of the right length. -/
theorem unwrap_eq_ok_iff : e.unwrap text aad = .ok plain ↔
    plain ≠ [] ∧ ∃ nonce, nonce.length = e.cipher.algorithm.nonceSize ∧ text = e.wrap nonce plain aad := by
  constructor
  · intro h
    rcases accept_cases e text with ⟨-, haccept⟩ | ⟨signature, nonce, sealed, hparts, ⟨-, haccept⟩ | ⟨-, haccept⟩⟩
    · rw [unwrap_of_refused haccept] at h
      cases h
    · rw [unwrap_of_refused haccept] at h
      cases h
    · rw [unwrap_of_accepted haccept hparts.length_nonce] at h
      cases hplain : e.cipher.decrypt? nonce sealed aad with
      | none =>
        rw [hplain] at h
        cases h
      | some plain' =>
        rw [hplain] at h
        cases h
        have hsealed := hparts.length_sealed
        have heq := Cipher.eq_encrypt_of_decrypt? hplain
        rw [heq, Cipher.length_encrypt] at hsealed
        refine ⟨List.ne_nil_of_length_pos (by omega), nonce, hparts.length_nonce, ?_⟩
        rw [wrap, octets, ← heq]
        exact (accept_eq_ok_iff.mp haccept).2
  · rintro ⟨hplain, nonce, hnonce, rfl⟩
    exact e.unwrap_wrap aad hnonce hplain

/-- What is wrapped has the parts that it was made of. -/
theorem parts_wrap (e : Envelope) (aad : Bytes) (hnonce : nonce.length = e.cipher.algorithm.nonceSize)
    (hplain : plain ≠ []) :
    e.Parts (e.wrap nonce plain aad) (e.signature (nonce ++ e.cipher.encrypt nonce plain aad)) nonce
      (e.cipher.encrypt nonce plain aad) where
  decode := Base64.decode?_encode _
  length_signature := e.length_signature _
  length_nonce := hnonce
  length_sealed := by
    have hpos := List.length_pos_iff.mpr hplain
    rw [Cipher.length_encrypt]
    omega

/-- A text has one signature, one nonce and one rest. -/
theorem Parts.unique {signature' nonce' sealed' : Bytes} (h : e.Parts text signature nonce sealed)
    (h' : e.Parts text signature' nonce' sealed') : signature' = signature ∧ nonce' = nonce ∧ sealed' = sealed := by
  have hdecode := h.decode.symm.trans h'.decode
  obtain ⟨hsignature, hbody⟩ := List.append_inj (Option.some.inj hdecode)
    (h.length_signature.trans h'.length_signature.symm)
  obtain ⟨hnonce, hsealed⟩ := List.append_inj hbody (h.length_nonce.trans h'.length_nonce.symm)
  exact ⟨hsignature.symm, hnonce.symm, hsealed.symm⟩

/-- Under a nonce, and with associated data, one text opens to octets. -/
theorem unwrap_eq_ok_under_iff :
    (e.unwrap text aad = .ok plain ∧ ∃ signature sealed, e.Parts text signature nonce sealed) ↔
      nonce.length = e.cipher.algorithm.nonceSize ∧ plain ≠ [] ∧ text = e.wrap nonce plain aad := by
  constructor
  · rintro ⟨hunwrap, signature, sealed, hparts⟩
    obtain ⟨hplain, nonce', hnonce', rfl⟩ := unwrap_eq_ok_iff.mp hunwrap
    obtain ⟨-, rfl, -⟩ := (parts_wrap e aad hnonce' hplain).unique hparts
    exact ⟨hnonce', hplain, rfl⟩
  · rintro ⟨hnonce, hplain, rfl⟩
    exact ⟨e.unwrap_wrap aad hnonce hplain, _, _, parts_wrap e aad hnonce hplain⟩

/-! ### Texts that are altered -/

/-- A text carries the signature of octets other than given ones, as many as an envelope has at least. -/
def Forges (e : Envelope) (body : Bytes) (text : String) : Prop :=
  ∃ key body', e.signingKey = some key ∧ Base64.decode? text = some (Digest.hmacSha256 key body' ++ body') ∧
    body' ≠ body ∧ e.cipher.algorithm.nonceSize + Cipher.tagSize < body'.length

/-- Any text but that of signed octets is refused, unless it is a forgery. -/
theorem read_refused_iff {key : Bytes} (hkey : e.signingKey = some key)
    (htext : text ≠ Base64.encode (e.signature body ++ body)) (d : Decoder α) (aad : Bytes) :
    e.read d text aad = .error .invalidData ∨ e.read d text aad = .error .signatureInvalid ↔ ¬e.Forges body text := by
  have hsign : ∀ body', e.signature body' = Digest.hmacSha256 key body' := by
    intro body'
    rw [Envelope.signature, hkey]
  rw [read_eq_refusal_iff (Or.inl rfl), read_eq_refusal_iff (Or.inr rfl)]
  constructor
  · rintro hrefused ⟨key', body', hkey', hdecode, -, hlong⟩
    -- A forgery is long enough and signed, so it is accepted.
    rw [hkey] at hkey'
    cases hkey'
    have haccept : e.accept text = .ok body' := by
      refine accept_eq_ok_iff.mpr ⟨hlong, ?_⟩
      rw [hsign]
      exact Base64.decode?_eq_some_iff.mp hdecode
    rw [haccept] at hrefused
    rcases hrefused with h | h <;> cases h
  · intro hforges
    rcases accept_cases e text with ⟨-, haccept⟩ | ⟨signature, nonce, sealed, -, ⟨-, haccept⟩ | ⟨-, haccept⟩⟩
    · exact Or.inl haccept
    · exact Or.inr haccept
    · obtain ⟨hlong, rfl⟩ := accept_eq_ok_iff.mp haccept
      refine absurd ⟨key, nonce ++ sealed, hkey, ?_, ?_, hlong⟩ hforges
      · rw [Base64.decode?_encode, hsign]
      · rintro rfl
        exact htext rfl

/-- Octets behind another signature than their own are wrongly signed. -/
theorem read_of_other_signature (hbody : e.cipher.algorithm.nonceSize + Cipher.tagSize < body.length) {key : Bytes}
    (hkey : e.signingKey = some key) (hlength : signature.length = signatureSize)
    (hsignature : signature ≠ Digest.hmacSha256 key body) (d : Decoder α) (aad : Bytes) :
    e.read d (Base64.encode (signature ++ body)) aad = .error .signatureInvalid := by
  have hsize : e.signedSize = signatureSize := by
    rw [signedSize, isSigned, hkey]
    rfl
  have hparts := parts_encode hbody (hlength.trans hsize.symm)
  refine (read_eq_signatureInvalid_iff hparts).mpr ⟨key, hkey, ?_⟩
  rw [List.take_append_drop]
  exact hsignature

/-! ### The law of spellings -/

/-- A text that opens is the base64 of a nonce and of what sealing makes of the octets in it under that nonce, behind
their signature if there is a signing key.  So one text at most opens to given octets under a nonce, and one does if
the nonce has its length and there are octets.  Under a signing key, any other text than one that was wrapped is
refused, as invalid or as wrongly signed, unless it carries the signature of another nonce and sealed octets; and if it
differs in its signature alone, it is wrongly signed. -/
theorem spelt_once (e : Envelope) :
    (∀ text aad plain, e.unwrap text aad = .ok plain → ∃ nonce sealed,
        e.Parts text (e.signature (nonce ++ sealed)) nonce sealed ∧ sealed = e.cipher.encrypt nonce plain aad ∧
          text = Base64.encode (e.signature (nonce ++ sealed) ++ (nonce ++ sealed))) ∧
      (∀ text aad nonce plain,
        (e.unwrap text aad = .ok plain ∧ ∃ signature sealed, e.Parts text signature nonce sealed) ↔
          nonce.length = e.cipher.algorithm.nonceSize ∧ plain ≠ [] ∧ text = e.wrap nonce plain aad) ∧
      ∀ key, e.signingKey = some key → ∀ nonce plain aad, nonce.length = e.cipher.algorithm.nonceSize → plain ≠ [] →
        ∀ {α : Type} (d : Decoder α) (aad' : Bytes),
          (∀ text, text ≠ e.wrap nonce plain aad →
            (e.read d text aad' = .error .invalidData ∨ e.read d text aad' = .error .signatureInvalid ↔
              ¬e.Forges (nonce ++ e.cipher.encrypt nonce plain aad) text)) ∧
          ∀ signature, signature.length = signatureSize →
            signature ≠ Digest.hmacSha256 key (nonce ++ e.cipher.encrypt nonce plain aad) →
              e.read d (Base64.encode (signature ++ (nonce ++ e.cipher.encrypt nonce plain aad))) aad' =
                .error .signatureInvalid := by
  refine ⟨?_, fun text aad nonce plain => unwrap_eq_ok_under_iff, ?_⟩
  · intro text aad plain h
    obtain ⟨hplain, nonce, hnonce, rfl⟩ := unwrap_eq_ok_iff.mp h
    exact ⟨nonce, e.cipher.encrypt nonce plain aad, parts_wrap e aad hnonce hplain, rfl, rfl⟩
  · intro key hkey nonce plain aad hnonce hplain α d aad'
    have hpos := List.length_pos_iff.mpr hplain
    have hbody : e.cipher.algorithm.nonceSize + Cipher.tagSize <
        (nonce ++ e.cipher.encrypt nonce plain aad).length := by
      rw [List.length_append, Cipher.length_encrypt, hnonce]
      omega
    refine ⟨?_, ?_⟩
    · intro text htext
      exact read_refused_iff hkey htext d aad'
    · intro signature hlength hsignature
      exact read_of_other_signature hbody hkey hlength hsignature d aad'

end SessionVault.Envelope
