import SessionVault.Proofs.Identifier
import SessionVault.Vault

/-!
# The keys of sessions

A key is the prefix of the policy, the name, a colon and the identifier.  Names may hold anything, colons among it,
but identifiers have one length, so a key belongs to one name and one identifier.

* `Policy.key_inj`, `Vault.key_inj` — under a prefix, a name and an identifier have a key of their own;
* `Policy.key_inj_id` — under a name, so has any text in the place of the identifier;
* `identifiers_keep_apart` — what is issued keeps all that was drawn for it, and keys keep all of that and the name.
-/

namespace SessionVault

/-! ### Keys -/

namespace Policy

variable {name name' id id' : String}

theorem toList_key (p : Policy) (name id : String) :
    (p.key name id).toList = p.keyPrefix.toList ++ name.toList ++ [':'] ++ id.toList := by
  simp [key]

/-- The identifier is found at the end of a key by its length, wherever there are colons in front of it. -/
theorem key_inj (p : Policy) (h : Identifier.isValid id = true) (h' : Identifier.isValid id' = true) :
    p.key name id = p.key name' id' ↔ name = name' ∧ id = id' := by
  constructor
  · intro hkey
    have hlist := congrArg String.toList hkey
    rw [toList_key, toList_key] at hlist
    have hlength : id.toList.length = id'.toList.length := by
      rw [Identifier.length_of_isValid h, Identifier.length_of_isValid h']
    obtain ⟨hfront, hid⟩ := List.append_inj' hlist hlength
    have hnames := (List.append_inj' hfront rfl).1
    exact ⟨String.toList_inj.mp (List.append_cancel_left hnames), String.toList_inj.mp hid⟩
  · rintro ⟨rfl, rfl⟩
    rfl

/-- Texts that do not have the shape of an identifier may share a key under two names. -/
example : ({} : Policy).key "sid" "a:b" = ({} : Policy).key "sid:a" "b" := by decide

/-- Under one name a key belongs to one identifier, whatever its shape. -/
theorem key_inj_id (p : Policy) : p.key name id = p.key name id' ↔ id = id' := by
  constructor
  · intro hkey
    have hlist := congrArg String.toList hkey
    rw [toList_key, toList_key] at hlist
    exact String.toList_inj.mp (List.append_cancel_left hlist)
  · rintro rfl
    rfl

end Policy

namespace Vault

theorem key_inj (v : Vault) {name name' id id' : String} (h : Identifier.isValid id = true)
    (h' : Identifier.isValid id' = true) : v.key name id = v.key name' id' ↔ name = name' ∧ id = id' :=
  v.policy.key_inj h h'

theorem key_inj_id (v : Vault) {name id id' : String} : v.key name id = v.key name id' ↔ id = id' :=
  v.policy.key_inj_id

end Vault

/-! ### What is issued, and the keys it is part of -/

/-- For every source of octets, every prefix and names of any characters:

The identifier that is issued has the shape of one, and is read back as the octets that were drawn for it.  These are
the next 32 of the source, whatever they are, and none behind them is used up.  So identifiers are the same only if the
same octets were drawn for them.  Texts with the shape of identifiers have the same key only if they are the same, and
the names are. -/
theorem identifiers_keep_apart :
    (∀ e : Entropy, Identifier.isValid (Identifier.issue e).1 = true ∧
      Base64.decodeUrl? (Identifier.issue e).1 = some (e.draw Identifier.entropySize).1) ∧
    (∀ (octets rest : Bytes) (state : UInt64), octets.length = Identifier.entropySize →
      Identifier.issue ⟨octets ++ rest, state⟩ = (Identifier.ofOctets octets, ⟨rest, state⟩)) ∧
    (∀ e e' : Entropy, (Identifier.issue e).1 = (Identifier.issue e').1 ↔
      (e.draw Identifier.entropySize).1 = (e'.draw Identifier.entropySize).1) ∧
    (∀ (p : Policy) (name name' id id' : String), Identifier.isValid id = true → Identifier.isValid id' = true →
      (p.key name id = p.key name' id' ↔ name = name' ∧ id = id')) := by
  refine ⟨?_, ?_, ?_, ?_⟩
  · intro e
    exact ⟨Identifier.isValid_issue e, Identifier.decodeUrl?_issue e⟩
  · intro octets rest state hlength
    exact Identifier.issue_pending hlength rest state
  · intro e e'
    exact Identifier.issue_inj
  · intro p name name' id id' hid hid'
    exact p.key_inj hid hid'

/-- The same octet as often as there are octets in an identifier. -/
def Identifier.uniform (b : UInt8) : Bytes := List.replicate entropySize b

/-- The last group of the identifier of 32 octets is a short one, and its bits are kept all the same; a colon at the end
of a name is not taken for the one behind it. -/
theorem identifiers_keep_apart_sample :
    Identifier.issue ⟨Identifier.uniform 1 ++ [2], 0⟩ = (Identifier.ofOctets (Identifier.uniform 1), ⟨[2], 0⟩) ∧
      Base64.decodeUrl? (Identifier.ofOctets (Identifier.uniform 1)) = some (Identifier.uniform 1) ∧
      Identifier.ofOctets (Identifier.uniform 1) ≠ Identifier.ofOctets (Identifier.uniform 2) ∧
      ∀ p : Policy, p.key "sid" (Identifier.ofOctets (Identifier.uniform 1)) ≠
        p.key "sid:" (Identifier.ofOctets (Identifier.uniform 1)) := by
  obtain ⟨hissue, hpending, hsame, hkeys⟩ := identifiers_keep_apart
  have hfirst := hpending (Identifier.uniform 1) [2] 0 rfl
  have hsecond := hpending (Identifier.uniform 2) [] 0 rfl
  have hvalid := (hissue ⟨Identifier.uniform 1 ++ [2], 0⟩).1
  have hread := (hissue ⟨Identifier.uniform 1 ++ [2], 0⟩).2
  have hapart := hsame ⟨Identifier.uniform 1 ++ [2], 0⟩ ⟨Identifier.uniform 2 ++ [], 0⟩
  rw [hfirst] at hvalid hread hapart
  rw [hsecond] at hapart
  refine ⟨hfirst, hread.trans (by decide), ?_, ?_⟩
  · intro h
    exact absurd (hapart.mp h) (by decide)
  · intro p h
    have hnames := ((hkeys p _ _ _ _ hvalid hvalid).mp h).1
    exact absurd hnames (by decide)

end SessionVault
