import SessionVault.Identifier
import SessionVault.Proofs.Base64

/-!
# Identifiers and the octets behind them

The shape of an identifier is checked without regard to how identifiers are made: 43 symbols are counted, and each of
them is looked at.  What is issued passes, and keeps every bit of the 32 octets that were drawn for it.

* `isValid_ofOctets`, `decodeUrl?_ofOctets` — the identifier of 32 octets has that shape, and is read back as them;
* `issue_pending` — identifiers are made of the next 32 octets of the source, whatever these are;
* `issue_inj` — identifiers are the same only if the same octets were drawn for them.
-/

namespace SessionVault.Identifier

/-! ### Symbols -/

theorem isSymbol_symbol {n : Nat} (h : n < 64) : isSymbol (Base64.symbol Base64.urlSafe n) = true := by
  have hall : ∀ n < 64, isSymbol (Base64.symbol Base64.urlSafe n) = true := by decide
  exact hall n h

/-! ### Shapes -/

theorem isValid_iff {s : String} : isValid s = true ↔ s.toList.length = size ∧ ∀ c ∈ s.toList, isSymbol c = true := by
  rw [isValid, Bool.and_eq_true, beq_iff_eq, List.all_eq_true, String.length_toList]

theorem length_of_isValid {s : String} (h : isValid s = true) : s.toList.length = size := (isValid_iff.mp h).1

/-! ### Octets -/

/-- The identifier of 32 octets has the shape of one. -/
theorem isValid_ofOctets {bs : Bytes} (h : bs.length = entropySize) : isValid (ofOctets bs) = true := by
  rw [isValid_iff, String.length_toList]
  refine ⟨length_ofOctets h, ?_⟩
  intro c hc
  rw [ofOctets, Base64.encodeUrl, String.toList_ofList] at hc
  obtain ⟨n, hn, rfl⟩ := List.mem_map.mp hc
  exact isSymbol_symbol (Base64.lt_of_mem_sextets hn)

/-- An identifier is read back as the octets that it was made of. -/
theorem decodeUrl?_ofOctets (bs : Bytes) : Base64.decodeUrl? (ofOctets bs) = some bs := Base64.decodeUrl?_encodeUrl bs

/-! ### Identifiers that are issued -/

theorem issue_eq (e : Entropy) : issue e = (ofOctets (e.draw entropySize).1, (e.draw entropySize).2) := rfl

/-- Any 32 octets may be those that an identifier is made of, and no others are taken from the source. -/
theorem issue_pending {octets : Bytes} (h : octets.length = entropySize) (rest : Bytes) (state : UInt64) :
    issue ⟨octets ++ rest, state⟩ = (ofOctets octets, ⟨rest, state⟩) := by
  rw [issue_eq, ← h, Entropy.draw_append]

theorem isValid_issue (e : Entropy) : isValid (issue e).1 = true := by
  rw [issue_eq]
  exact isValid_ofOctets (Entropy.length_draw entropySize e)

/-- The octets that were drawn for an identifier are all found in it. -/
theorem decodeUrl?_issue (e : Entropy) : Base64.decodeUrl? (issue e).1 = some (e.draw entropySize).1 := by
  rw [issue_eq]
  exact decodeUrl?_ofOctets _

/-- Identifiers are the same only if the same octets were drawn for them. -/
theorem issue_inj {e e' : Entropy} : (issue e).1 = (issue e').1 ↔ (e.draw entropySize).1 = (e'.draw entropySize).1 := by
  rw [issue_eq, issue_eq]
  exact Base64.encodeUrl_inj

/-- A text with the shape of an identifier that is never issued. -/
example : isValid (String.ofList (List.replicate 43 'a')) = true ∧
    Base64.decodeUrl? (String.ofList (List.replicate 43 'a')) = none := by
  decide +kernel

end SessionVault.Identifier
