import Mathlib.Data.String.Basic
import SessionVault.Proofs.Envelope

/-!
# The stages of reading an envelope

A text is accepted, what is accepted is opened, and what is opened is decoded.  Each stage has failures of its own, so
a failure says how far a text has come, and nothing of the stages behind.

* `Parts` — the signature, the nonce and the sealed octets of a text that is spelt right and long enough;
* `accept` — the stages up to the signature, which know neither the key of the cipher nor the associated data nor the
  decoder (`accept_congr`); `accept_cases`, what they make of a text;
* `read_of_refused`, `read_of_closed`, `read_of_opened` — a reading in terms of what is accepted;
* `unwrapWithin` — the same reader with splits that may lie behind the end of what they split (`unwrapWithin_eq`);
* `refused_in_order` — which failure a text has, that no split lies behind an end, and that envelopes with one signing
  key and one kind of cipher refuse the same texts before they open any.
-/

namespace SessionVault.Envelope

variable {α : Type} {e : Envelope} {d : Decoder α} {text : String} {aad signature nonce sealed : Bytes}

/-! ### Parts -/

/-- The octets that a signature takes, none in an envelope that is not signed. -/
def signedSize (e : Envelope) : Nat := if e.isSigned then signatureSize else 0

/-- A text that is not spelt right, or spells fewer octets than an envelope has. -/
def Shapeless (e : Envelope) (text : String) : Prop :=
  ∀ bs, Base64.decode? text = some bs → bs.length < e.leastLength

/-- A text spells the three parts of an envelope, each with its length. -/
structure Parts (e : Envelope) (text : String) (signature nonce sealed : Bytes) : Prop where
  decode : Base64.decode? text = some (signature ++ (nonce ++ sealed))
  length_signature : signature.length = e.signedSize
  length_nonce : nonce.length = e.cipher.algorithm.nonceSize
  length_sealed : Cipher.tagSize < sealed.length

/-- What stands in front of octets is not their signature. -/
def Missigned (e : Envelope) (signature body : Bytes) : Prop :=
  ∃ key, e.signingKey = some key ∧ signature ≠ Digest.hmacSha256 key body

theorem leastLength_eq (e : Envelope) :
    e.leastLength = e.signedSize + e.cipher.algorithm.nonceSize + Cipher.tagSize + 1 := rfl

/-- An envelope with parts is long enough. -/
theorem Parts.leastLength_le (h : e.Parts text signature nonce sealed) :
    e.leastLength ≤ (signature ++ (nonce ++ sealed)).length := by
  have hsealed := h.length_sealed
  rw [leastLength_eq, List.length_append, List.length_append, h.length_signature, h.length_nonce]
  omega

theorem Parts.not_shapeless (h : e.Parts text signature nonce sealed) : ¬e.Shapeless text := by
  intro hshapeless
  exact Nat.not_lt.mpr h.leastLength_le (hshapeless _ h.decode)

/-- Both splits of a text that is long enough lie within what they split. -/
theorem exists_parts (h : ¬e.Shapeless text) : ∃ signature nonce sealed, e.Parts text signature nonce sealed := by
  obtain ⟨bs, hbs⟩ := Classical.not_forall.mp h
  obtain ⟨hbs, hlong⟩ := Classical.not_imp.mp hbs
  rw [leastLength_eq] at hlong
  refine ⟨bs.take e.signedSize, (bs.drop e.signedSize).take e.cipher.algorithm.nonceSize,
    (bs.drop e.signedSize).drop e.cipher.algorithm.nonceSize, ?_, ?_, ?_, ?_⟩
  · rw [List.take_append_drop, List.take_append_drop, hbs]
  · rw [List.length_take]
    omega
  · rw [List.length_take, List.length_drop]
    omega
  · rw [List.length_drop, List.length_drop]
    omega

/-! ### Acceptance -/

/-- The octets behind the signature of a text, if it is spelt right, long enough and signed. -/
def accept (e : Envelope) (text : String) : Except Failure Bytes :=
  match Base64.decode? text with
  | none => .error .invalidData
  | some bs => if bs.length < e.leastLength then .error .invalidData else e.verified bs

theorem accept_of_shapeless (h : e.Shapeless text) : e.accept text = .error .invalidData := by
  rw [accept]
  cases hbs : Base64.decode? text with
  | none => rfl
  | some bs => exact if_pos (h bs hbs)

/-- A text with parts is accepted if what stands in front is the signature of the rest. -/
theorem accept_of_parts (h : e.Parts text signature nonce sealed) :
    e.accept text = if signature = e.signature (nonce ++ sealed) then .ok (nonce ++ sealed)
      else .error .signatureInvalid := by
  have hlong := Nat.not_lt.mpr h.leastLength_le
  have hlength := h.length_signature
  rw [signedSize, isSigned] at hlength
  rw [accept, h.decode]
  dsimp only
  rw [if_neg hlong]
  cases hkey : e.signingKey with
  | none =>
    rw [hkey] at hlength
    simp [verified, Envelope.signature, hkey, List.length_eq_zero_iff.mp hlength]
  | some key =>
    rw [hkey] at hlength
    have hsize : signature.length = signatureSize := hlength
    simp only [verified, Envelope.signature, hkey, ← hsize, List.take_left, List.drop_left]

/-- In an envelope with parts, what stands in front is the signature of the rest unless it is missigned. -/
theorem Parts.signature_iff (h : e.Parts text signature nonce sealed) :
    signature = e.signature (nonce ++ sealed) ↔ ¬e.Missigned signature (nonce ++ sealed) := by
  have hlength := h.length_signature
  rw [signedSize, isSigned] at hlength
  rw [Missigned, Envelope.signature]
  cases hkey : e.signingKey with
  | none =>
    rw [hkey] at hlength
    simp [List.length_eq_zero_iff.mp hlength]
  | some key => simp

theorem accept_of_missigned (h : e.Parts text signature nonce sealed)
    (hmissigned : e.Missigned signature (nonce ++ sealed)) : e.accept text = .error .signatureInvalid := by
  rw [accept_of_parts h, if_neg fun heq => h.signature_iff.mp heq hmissigned]

theorem accept_of_signed (h : e.Parts text signature nonce sealed)
    (hsigned : ¬e.Missigned signature (nonce ++ sealed)) : e.accept text = .ok (nonce ++ sealed) := by
  rw [accept_of_parts h, if_pos (h.signature_iff.mpr hsigned)]

/-- What is accepted depends on the signing key and on the length of nonces. -/
theorem accept_congr {e' : Envelope} (hkey : e'.signingKey = e.signingKey)
    (hsize : e'.cipher.algorithm.nonceSize = e.cipher.algorithm.nonceSize) (text : String) :
    e'.accept text = e.accept text := by
  have hleast : e'.leastLength = e.leastLength := by
    rw [leastLength_eq, leastLength_eq, signedSize, signedSize, isSigned, isSigned, hkey, hsize]
  simp only [accept, hleast, verified, hkey]

/-! ### Opening -/

/-- What is accepted is split behind the nonce and opened. -/
theorem unwrap_eq (e : Envelope) (text : String) (aad : Bytes) :
    e.unwrap text aad = e.accept text >>= fun body =>
      match e.cipher.decrypt? (body.take e.cipher.algorithm.nonceSize) (body.drop e.cipher.algorithm.nonceSize) aad with
      | none => .error .encryptionFailed
      | some plain => .ok plain := by
  rw [unwrap, accept]
  cases Base64.decode? text with
  | none => rfl
  | some bs =>
    dsimp only
    split
    · rfl
    · cases e.verified bs with
      | error f => rfl
      | ok body => rfl

theorem unwrap_of_refused {f : Failure} (h : e.accept text = .error f) (aad : Bytes) :
    e.unwrap text aad = .error f := by
  rw [unwrap_eq, h]
  rfl

theorem unwrap_of_accepted (h : e.accept text = .ok (nonce ++ sealed))
    (hn : nonce.length = e.cipher.algorithm.nonceSize) (aad : Bytes) :
    e.unwrap text aad =
      match e.cipher.decrypt? nonce sealed aad with
      | none => .error .encryptionFailed
      | some plain => .ok plain := by
  rw [unwrap_eq, h, ← hn]
  simp only [bind, Except.bind, List.take_left, List.drop_left]

/-! ### Reading -/

theorem read_of_unwrap_error {f : Failure} (h : e.unwrap text aad = .error f) (d : Decoder α) :
    e.read d text aad = .error f := by
  rw [read, h]
  rfl

theorem read_of_unwrap {plain : Bytes} (h : e.unwrap text aad = .ok plain) (d : Decoder α) :
    e.read d text aad = (decode d plain).mapError fun fault => .deserialization (fault.message plain) := by
  rw [read, h]
  simp only [bind, Except.bind]
  cases decode d plain with
  | ok a => rfl
  | error fault => rfl

/-- A text that is not accepted fails as its acceptance does, whatever the cipher, the associated data and the decoder
are. -/
theorem read_of_refused {f : Failure} (h : e.accept text = .error f) (d : Decoder α) (aad : Bytes) :
    e.read d text aad = .error f := read_of_unwrap_error (unwrap_of_refused h aad) d

theorem read_of_closed (h : e.accept text = .ok (nonce ++ sealed)) (hn : nonce.length = e.cipher.algorithm.nonceSize)
    (hclosed : e.cipher.decrypt? nonce sealed aad = none) (d : Decoder α) :
    e.read d text aad = .error .encryptionFailed := by
  refine read_of_unwrap_error ?_ d
  rw [unwrap_of_accepted h hn, hclosed]

theorem read_of_opened (h : e.accept text = .ok (nonce ++ sealed)) (hn : nonce.length = e.cipher.algorithm.nonceSize)
    {plain : Bytes} (hopened : e.cipher.decrypt? nonce sealed aad = some plain) (d : Decoder α) :
    e.read d text aad = (decode d plain).mapError fun fault => .deserialization (fault.message plain) := by
  refine read_of_unwrap ?_ d
  rw [unwrap_of_accepted h hn, hopened]

/-- A text is shapeless, or it has parts that are missigned, or it is accepted. -/
theorem accept_cases (e : Envelope) (text : String) :
    e.Shapeless text ∧ e.accept text = .error .invalidData ∨
      ∃ signature nonce sealed, e.Parts text signature nonce sealed ∧
        (e.Missigned signature (nonce ++ sealed) ∧ e.accept text = .error .signatureInvalid ∨
          ¬e.Missigned signature (nonce ++ sealed) ∧ e.accept text = .ok (nonce ++ sealed)) := by
  by_cases hshapeless : e.Shapeless text
  · exact Or.inl ⟨hshapeless, accept_of_shapeless hshapeless⟩
  · obtain ⟨signature, nonce, sealed, hparts⟩ := exists_parts hshapeless
    refine Or.inr ⟨signature, nonce, sealed, hparts, ?_⟩
    by_cases hmissigned : e.Missigned signature (nonce ++ sealed)
    · exact Or.inl ⟨hmissigned, accept_of_missigned hparts hmissigned⟩
    · exact Or.inr ⟨hmissigned, accept_of_signed hparts hmissigned⟩

/-- What is accepted fails in other ways, if at all. -/
theorem read_ne_refusal (h : e.accept text = .ok (nonce ++ sealed)) (hn : nonce.length = e.cipher.algorithm.nonceSize)
    {f : Failure} (hf : f = .invalidData ∨ f = .signatureInvalid) : e.read d text aad ≠ .error f := by
  intro hread
  cases hplain : e.cipher.decrypt? nonce sealed aad with
  | none =>
    rw [read_of_closed h hn hplain] at hread
    cases hread
    rcases hf with hf | hf <;> cases hf
  | some plain =>
    rw [read_of_opened h hn hplain] at hread
    cases hdecode : decode d plain with
    | ok a =>
      rw [hdecode] at hread
      cases hread
    | error fault =>
      rw [hdecode] at hread
      cases hread
      rcases hf with hf | hf <;> cases hf

/-- A reading refuses exactly the texts that are not accepted. -/
theorem read_eq_refusal_iff {f : Failure} (hf : f = .invalidData ∨ f = .signatureInvalid) :
    e.read d text aad = .error f ↔ e.accept text = .error f := by
  constructor
  · intro hread
    rcases accept_cases e text with ⟨-, haccept⟩ | ⟨signature, nonce, sealed, hparts, ⟨-, haccept⟩ | ⟨-, haccept⟩⟩
    · rw [read_of_refused haccept] at hread
      rw [haccept, Except.error.inj hread]
    · rw [read_of_refused haccept] at hread
      rw [haccept, Except.error.inj hread]
    · exact absurd hread (read_ne_refusal haccept hparts.length_nonce hf)
  · intro haccept
    exact read_of_refused haccept d aad

/-- An envelope that cannot be read says that there is no session that can be used. -/
theorem isContent_of_read {f : Failure} (h : e.read d text aad = .error f) : f.isContent = true := by
  rcases e.accept_cases text with ⟨-, hrefused⟩ | ⟨signature, nonce, sealed, hparts, ⟨-, hrefused⟩ | ⟨-, haccepted⟩⟩
  · rw [read_of_refused hrefused] at h
    cases h
    rfl
  · rw [read_of_refused hrefused] at h
    cases h
    rfl
  · cases hplain : e.cipher.decrypt? nonce sealed aad with
    | none =>
      rw [read_of_closed haccepted hparts.length_nonce hplain] at h
      cases h
      rfl
    | some plain =>
      rw [read_of_opened haccepted hparts.length_nonce hplain] at h
      cases hdecode : decode d plain with
      | ok a =>
        rw [hdecode] at h
        cases h
      | error fault =>
        rw [hdecode] at h
        cases h
        rfl

/-! ### Splits that may fail -/

/-- The two parts of octets at a place, none if the place lies behind their end. -/
def split? (n : Nat) (bs : Bytes) : Option (Bytes × Bytes) := if n ≤ bs.length then some (bs.splitAt n) else none

theorem split?_append (as bs : Bytes) : split? as.length (as ++ bs) = some (as, bs) := by
  simp [split?, List.splitAt_eq]

/-- The text of an envelope, by splits that may lie behind the end of what they split; none as soon as one does. -/
def unwrapWithin (e : Envelope) (text : String) (aad : Bytes) : Option (Except Failure Bytes) :=
  match Base64.decode? text with
  | none => some (.error .invalidData)
  | some bs =>
    if bs.length < e.leastLength then some (.error .invalidData)
    else
      (split? e.signedSize bs).bind fun (signature, body) =>
        if signature ≠ e.signature body then some (.error .signatureInvalid)
        else
          (split? e.cipher.algorithm.nonceSize body).map fun (nonce, sealed) =>
            match e.cipher.decrypt? nonce sealed aad with
            | none => .error .encryptionFailed
            | some plain => .ok plain

theorem unwrapWithin_of_shapeless (h : e.Shapeless text) (aad : Bytes) :
    e.unwrapWithin text aad = some (.error .invalidData) := by
  rw [unwrapWithin]
  cases hbs : Base64.decode? text with
  | none => rfl
  | some bs => exact if_pos (h bs hbs)

/-- The splits of a text with parts are its parts. -/
theorem unwrapWithin_of_parts (h : e.Parts text signature nonce sealed) (aad : Bytes) :
    e.unwrapWithin text aad = some (if signature ≠ e.signature (nonce ++ sealed) then .error .signatureInvalid
      else
        match e.cipher.decrypt? nonce sealed aad with
        | none => .error .encryptionFailed
        | some plain => .ok plain) := by
  have hlong := Nat.not_lt.mpr h.leastLength_le
  rw [unwrapWithin, h.decode]
  dsimp only
  rw [if_neg hlong, ← h.length_signature, split?_append, Option.bind_some, ← h.length_nonce, split?_append]
  split
  · rfl
  · rfl

/-- No split lies behind the end of what it splits. -/
theorem unwrapWithin_eq (e : Envelope) (text : String) (aad : Bytes) :
    e.unwrapWithin text aad = some (e.unwrap text aad) := by
  rcases accept_cases e text with ⟨hshapeless, haccept⟩ |
    ⟨signature, nonce, sealed, hparts, ⟨hsigned, haccept⟩ | ⟨hsigned, haccept⟩⟩
  · rw [unwrapWithin_of_shapeless hshapeless, unwrap_of_refused haccept]
  · have hne : signature ≠ e.signature (nonce ++ sealed) := fun heq => hparts.signature_iff.mp heq hsigned
    rw [unwrapWithin_of_parts hparts, if_pos hne, unwrap_of_refused haccept]
  · have heq := hparts.signature_iff.mpr hsigned
    rw [unwrapWithin_of_parts hparts, if_neg (not_not_intro heq), unwrap_of_accepted haccept hparts.length_nonce]

/-! ### Failures in order -/

theorem read_eq_invalidData_iff : e.read d text aad = .error .invalidData ↔ e.Shapeless text := by
  rw [read_eq_refusal_iff (Or.inl rfl)]
  constructor
  · intro h
    rcases accept_cases e text with ⟨hshapeless, -⟩ | ⟨signature, nonce, sealed, -, ⟨-, haccept⟩ | ⟨-, haccept⟩⟩
    · exact hshapeless
    · rw [haccept] at h
      cases h
    · rw [haccept] at h
      cases h
  · exact accept_of_shapeless

theorem read_eq_signatureInvalid_iff (h : e.Parts text signature nonce sealed) :
    e.read d text aad = .error .signatureInvalid ↔ e.Missigned signature (nonce ++ sealed) := by
  rw [read_eq_refusal_iff (Or.inr rfl)]
  by_cases hsigned : e.Missigned signature (nonce ++ sealed)
  · simp [accept_of_missigned h hsigned, hsigned]
  · simp [accept_of_signed h hsigned, hsigned]

theorem read_eq_encryptionFailed_iff (h : e.Parts text signature nonce sealed)
    (hsigned : ¬e.Missigned signature (nonce ++ sealed)) :
    e.read d text aad = .error .encryptionFailed ↔ e.cipher.decrypt? nonce sealed aad = none := by
  have haccept := accept_of_signed h hsigned
  constructor
  · intro hread
    cases hplain : e.cipher.decrypt? nonce sealed aad with
    | none => rfl
    | some plain =>
      rw [read_of_opened haccept h.length_nonce hplain] at hread
      cases hdecode : decode d plain with
      | ok a =>
        rw [hdecode] at hread
        cases hread
      | error fault =>
        rw [hdecode] at hread
        cases hread
  · intro hclosed
    exact read_of_closed haccept h.length_nonce hclosed d

/-- A text that opens is decoded, and fails with what its decoder says. -/
theorem read_opened_iff (h : e.Parts text signature nonce sealed)
    (hsigned : ¬e.Missigned signature (nonce ++ sealed)) {plain : Bytes}
    (hplain : e.cipher.decrypt? nonce sealed aad = some plain) :
    ((∃ message, e.read d text aad = .error (.deserialization message)) ↔ ∃ fault, decode d plain = .error fault) ∧
      ∀ a, e.read d text aad = .ok a ↔ decode d plain = .ok a := by
  rw [read_of_opened (accept_of_signed h hsigned) h.length_nonce hplain]
  cases decode d plain with
  | ok a => simp [Except.mapError]
  | error fault => simp [Except.mapError]

/-- A text that is not spelt right or spells too few octets is invalid, and only such a text is; any other has the
three parts of an envelope.  Its signature is invalid exactly if a key is set under which it does not sign the rest.
It is not decrypted exactly if it is signed and the cipher does not open it; and once it is open, its reading ends
as its decoding does.  No split on the way lies behind the end of what it splits.  An envelope with the same signing
key and the same kind of cipher refuses the same texts as invalid or wrongly signed, whatever the key of its cipher,
the associated data and the decoder are. -/
theorem refused_in_order (e : Envelope) (d : Decoder α) (text : String) (aad : Bytes) :
    (e.read d text aad = .error .invalidData ↔ e.Shapeless text) ∧
      (¬e.Shapeless text ↔ ∃ signature nonce sealed, e.Parts text signature nonce sealed) ∧
      (∀ signature nonce sealed, e.Parts text signature nonce sealed →
        (e.read d text aad = .error .signatureInvalid ↔ e.Missigned signature (nonce ++ sealed)) ∧
          (¬e.Missigned signature (nonce ++ sealed) →
            (e.read d text aad = .error .encryptionFailed ↔ e.cipher.decrypt? nonce sealed aad = none) ∧
              ∀ plain, e.cipher.decrypt? nonce sealed aad = some plain →
                ((∃ message, e.read d text aad = .error (.deserialization message)) ↔
                    ∃ fault, decode d plain = .error fault) ∧
                  ∀ a, e.read d text aad = .ok a ↔ decode d plain = .ok a)) ∧
      e.unwrapWithin text aad = some (e.unwrap text aad) ∧
      ∀ {β : Type} (e' : Envelope) (d' : Decoder β) (aad' : Bytes), e'.signingKey = e.signingKey →
        e'.cipher.algorithm = e.cipher.algorithm → ∀ f, f = .invalidData ∨ f = .signatureInvalid →
          (e.read d text aad = .error f ↔ e'.read d' text aad' = .error f) := by
  refine ⟨read_eq_invalidData_iff, ⟨exists_parts, fun ⟨_, _, _, hparts⟩ => hparts.not_shapeless⟩, ?_,
    unwrapWithin_eq e text aad, ?_⟩
  · intro signature nonce sealed hparts
    refine ⟨read_eq_signatureInvalid_iff hparts, ?_⟩
    intro hsigned
    exact ⟨read_eq_encryptionFailed_iff hparts hsigned, fun plain hplain => read_opened_iff hparts hsigned hplain⟩
  · intro β e' d' aad' hkey hkind f hf
    rw [read_eq_refusal_iff hf, read_eq_refusal_iff hf, accept_congr hkey (congrArg Algorithm.nonceSize hkind)]

end SessionVault.Envelope
