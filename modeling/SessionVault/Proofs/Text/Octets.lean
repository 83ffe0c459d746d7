import SessionVault.Bytes

/-!
# The octets of texts

Characters of ASCII are one octet each, and all octets of any other character are beyond ASCII.  So what is said of the
octets of a text can be read off its characters.

* `ofPlain` — the octets of characters that are one octet each; `ofString_plain` — texts of such characters;
* `forall_of_lt`, `forall_of_ascii` — what holds of every octet, or every character of ASCII, by looking at each of them.
-/

namespace SessionVault.Bytes

/-! ### Plain characters -/

def ofPlain (cs : List Char) : Bytes := cs.map fun c => UInt8.ofNat c.toNat

theorem ofPlain_append (cs ds : List Char) : ofPlain (cs ++ ds) = ofPlain cs ++ ofPlain ds := List.map_append

/-- The octets of a text are those of its characters, one after the other. -/
theorem ofString_ofList (cs : List Char) : ofString (String.ofList cs) = cs.flatMap String.utf8EncodeChar := by
  rw [ofString]
  show (String.ofList cs).toByteArray.data.toList = _
  rw [String.toByteArray_ofList, List.utf8Encode]
  simp

theorem ofString_eq (s : String) : ofString s = s.toList.flatMap String.utf8EncodeChar := by
  rw [← ofString_ofList, String.ofList_toList]

/-- A character of ASCII is one octet. -/
theorem utf8EncodeChar_of_lt {c : Char} (h : c.toNat < 128) : String.utf8EncodeChar c = [UInt8.ofNat c.toNat] :=
  if_pos (Nat.le_of_lt_succ h)

/-- A character of ASCII is the one that its octet counts. -/
theorem ofNat_octet {c : Char} (h : c.toNat < 128) : Char.ofNat (UInt8.ofNat c.toNat).toNat = c := by
  rw [UInt8.toNat_ofNat', Nat.mod_eq_of_lt (by omega), Char.ofNat_toNat]

theorem ofString_plain {cs : List Char} (h : ∀ c ∈ cs, c.toNat < 128) : ofString (String.ofList cs) = ofPlain cs := by
  rw [ofString_ofList]
  induction cs with
  | nil => rfl
  | cons c cs ih =>
    rw [List.flatMap_cons, utf8EncodeChar_of_lt (h c List.mem_cons_self), ih fun d hd => h d (List.mem_cons_of_mem _ hd)]
    rfl

/-! ### Octets beyond ASCII -/

/-- A character beyond ASCII has octets beyond ASCII only. -/
theorem le_of_mem_utf8EncodeChar {c : Char} (hc : 0x80 ≤ c.toNat) {b : UInt8}
    (h : b ∈ String.utf8EncodeChar c) : 0x80 ≤ b.toNat := by
  have hlow : ¬ c.val.toNat ≤ 127 := Nat.not_le_of_lt hc
  simp only [String.utf8EncodeChar, hlow, if_false] at h
  split at h
  · simp only [List.mem_cons, List.not_mem_nil, or_false] at h
    rcases h with rfl | rfl <;> rw [UInt8.toNat_ofNat'] <;> omega
  · split at h <;> simp only [List.mem_cons, List.not_mem_nil, or_false] at h
    · rcases h with rfl | rfl | rfl <;> rw [UInt8.toNat_ofNat'] <;> omega
    · rcases h with rfl | rfl | rfl | rfl <;> rw [UInt8.toNat_ofNat'] <;> omega

/-- What holds of the first 256 numbers as octets holds of every octet. -/
theorem forall_of_lt {p : UInt8 → Prop} (h : ∀ n < 256, p (UInt8.ofNat n)) (b : UInt8) : p b := by
  have hb := h b.toNat b.toNat_lt
  rwa [UInt8.ofNat_toNat] at hb

/-- What holds of the characters with the first 128 numbers holds of every character of ASCII. -/
theorem forall_of_ascii {p : Char → Prop} (h : ∀ n < 128, p (Char.ofNat n)) {c : Char} (hc : c.toNat < 128) : p c := by
  have hn := h c.toNat hc
  rwa [Char.ofNat_toNat] at hn

/-- An octet as a character keeps its number. -/
theorem toNat_ofNat (b : UInt8) : (Char.ofNat b.toNat).toNat = b.toNat :=
  forall_of_lt (p := fun b => (Char.ofNat b.toNat).toNat = b.toNat) (by decide +kernel) b

end SessionVault.Bytes
