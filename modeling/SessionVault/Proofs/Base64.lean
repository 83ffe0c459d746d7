import SessionVault.Base64

/-!
# Base64 is read strictly

A spelling is read back as the octets that it spells, and nothing else is read as them: each octet string has one
padded spelling (`decode?_eq_some_iff`) and one that is safe in a URL (`decodeUrl?_eq_some_iff`).  Reading undoes
layers, and each of them has one input for an output:

* `eq_append_padding_of_unpad?` — the padding, if any, is the one that completes the last group of four;
* `mapM_value?_eq_some_iff` — a sextet has one symbol, in every alphabet (`IsAlphabet`);
* `sextets_of_ofSextets?` — the bits that fill up the last group are zero.
-/

namespace SessionVault.Base64

variable {extra : Char × Char}

/-! ### Symbols -/

/-- Two last symbols that make an alphabet: each of its symbols stands for its own sextet. -/
def IsAlphabet (extra : Char × Char) : Prop := ∀ n < 64, value? extra (symbol extra n) = some n

theorem isAlphabet_standard : IsAlphabet standard := by
  rw [IsAlphabet]
  decide

theorem isAlphabet_urlSafe : IsAlphabet urlSafe := by
  rw [IsAlphabet]
  decide

theorem symbol_ne_pad {n : Nat} (h : n < 64) : symbol standard n ≠ '=' := by
  have hall : ∀ n < 64, symbol standard n ≠ '=' := by decide
  exact hall n h

/-- A character is as many places behind another one as it is counted to be. -/
theorem ofNat_place {c : Char} {low : Nat} (h : low ≤ c.toNat) : Char.ofNat (low + (c.toNat - low)) = c := by
  rw [Nat.add_sub_cancel' h, Char.ofNat_toNat]

/-- A character that stands for a sextet is its symbol. -/
theorem symbol_of_value? {c : Char} {n : Nat} (h : value? extra c = some n) : n < 64 ∧ symbol extra n = c := by
  rw [value?] at h
  split at h
  · rename_i hc
    cases h
    have hlow : 65 ≤ c.toNat := hc.1
    have hhigh : c.toNat ≤ 90 := hc.2
    refine ⟨by omega, ?_⟩
    rw [symbol, if_pos (by omega)]
    exact ofNat_place hlow
  split at h
  · rename_i hc
    cases h
    have hlow : 97 ≤ c.toNat := hc.1
    have hhigh : c.toNat ≤ 122 := hc.2
    refine ⟨by omega, ?_⟩
    rw [symbol, if_neg (by omega), if_pos (by omega), Nat.add_sub_cancel]
    exact ofNat_place hlow
  split at h
  · rename_i hc
    cases h
    have hlow : 48 ≤ c.toNat := hc.1
    have hhigh : c.toNat ≤ 57 := hc.2
    refine ⟨by omega, ?_⟩
    rw [symbol, if_neg (by omega), if_neg (by omega), if_pos (by omega), Nat.add_sub_cancel]
    exact ofNat_place hlow
  split at h
  · rename_i hc
    cases h
    exact ⟨by decide, hc.symm⟩
  split at h
  · rename_i hc
    cases h
    exact ⟨by decide, hc.symm⟩
  · cases h

/-- The symbols of sextets stand for them, and no others do. -/
theorem mapM_value?_eq_some_iff (he : IsAlphabet extra) {cs : List Char} {ns : List Nat} :
    cs.mapM (value? extra) = some ns ↔ (∀ n ∈ ns, n < 64) ∧ cs = ns.map (symbol extra) := by
  induction cs generalizing ns with
  | nil =>
    cases ns with
    | nil => simp
    | cons n ns => simp
  | cons c cs ih =>
    rw [List.mapM_cons]
    constructor
    · intro h
      obtain ⟨m, hm, h⟩ := Option.bind_eq_some_iff.mp h
      obtain ⟨ms, hms, h⟩ := Option.bind_eq_some_iff.mp h
      cases h
      obtain ⟨hlt, hsymbol⟩ := symbol_of_value? hm
      obtain ⟨hall, hcs⟩ := ih.mp hms
      refine ⟨?_, ?_⟩
      · intro n hn
        rcases List.mem_cons.mp hn with rfl | hn
        · exact hlt
        · exact hall n hn
      · rw [List.map_cons, hsymbol, hcs]
    · rintro ⟨hall, hcs⟩
      cases ns with
      | nil => cases hcs
      | cons n ns =>
        obtain ⟨rfl, rest⟩ := List.cons.inj hcs
        rw [he n (hall n List.mem_cons_self), ih.mpr ⟨fun m hm => hall m (List.mem_cons_of_mem _ hm), rest⟩]
        rfl

/-! ### Sextets -/

theorem lt_of_mem_sextets {bs : Bytes} {n : Nat} (h : n ∈ sextets bs) : n < 64 := by
  fun_induction sextets bs with
  | case1 a b c rest ih =>
    have ha := a.toNat_lt
    have hb := b.toNat_lt
    have hc := c.toNat_lt
    simp only [List.mem_cons] at h
    rcases h with rfl | rfl | rfl | rfl | h
    · omega
    · omega
    · omega
    · omega
    · exact ih h
  | case2 a b =>
    have ha := a.toNat_lt
    have hb := b.toNat_lt
    simp only [List.mem_cons, List.not_mem_nil, or_false] at h
    omega
  | case3 a =>
    have ha := a.toNat_lt
    simp only [List.mem_cons, List.not_mem_nil, or_false] at h
    omega
  | case4 => cases h

/-- Sextets that are joined are the sextets of what they are joined to. -/
theorem sextets_of_ofSextets? {ns : List Nat} {bs : Bytes} (hns : ∀ n ∈ ns, n < 64) (h : ofSextets? ns = some bs) :
    sextets bs = ns := by
  fun_induction ofSextets? ns generalizing bs with
  | case1 w x y z rest ih =>
    obtain ⟨more, hmore, rfl⟩ := Option.map_eq_some_iff.mp h
    have hw := hns w (by simp)
    have hx := hns x (by simp)
    have hy := hns y (by simp)
    have hz := hns z (by simp)
    have hrest := ih (fun n hn => hns n (by simp [hn])) hmore
    simp only [sextets, hrest, UInt8.toNat_ofNat', List.cons.injEq, and_true]
    omega
  | case2 w x y hy0 =>
    cases h
    have hw := hns w (by simp)
    have hx := hns x (by simp)
    have hy := hns y (by simp)
    simp only [sextets, UInt8.toNat_ofNat', List.cons.injEq, and_true]
    omega
  | case3 w x y hy0 => cases h
  | case4 w x hx0 =>
    cases h
    have hw := hns w (by simp)
    have hx := hns x (by simp)
    simp only [sextets, UInt8.toNat_ofNat', List.cons.injEq, and_true]
    omega
  | case5 w x hx0 => cases h
  | case6 w => cases h
  | case7 =>
    cases h
    rfl

/-- Symbols are read as octets exactly if they are the symbols of their sextets. -/
theorem octets_of_symbols_iff (he : IsAlphabet extra) {cs : List Char} {bs : Bytes} :
    (cs.mapM (value? extra)).bind ofSextets? = some bs ↔ cs = (sextets bs).map (symbol extra) := by
  constructor
  · intro h
    obtain ⟨ns, hns, hjoined⟩ := Option.bind_eq_some_iff.mp h
    obtain ⟨hlt, rfl⟩ := (mapM_value?_eq_some_iff he).mp hns
    rw [sextets_of_ofSextets? hlt hjoined]
  · rintro rfl
    rw [(mapM_value?_eq_some_iff he).mpr ⟨fun n hn => lt_of_mem_sextets hn, rfl⟩]
    exact ofSextets?_sextets bs

/-! ### Padding -/

/-- Whole groups of four are padded as what follows them is. -/
theorem padding_group (w x y z : Char) (cs : List Char) :
    padding (w :: x :: y :: z :: cs).length = padding cs.length := by
  simp only [padding, List.length_cons]
  congr 1
  omega

/-- Padding is taken off again.  A spelling never has one symbol more than whole groups of four. -/
theorem unpad?_append_padding (cs : List Char) (hpad : ∀ c ∈ cs, c ≠ '=') (hl : cs.length % 4 ≠ 1) :
    unpad? (cs ++ padding cs.length) = some cs := by
  fun_induction unpad? cs with
  | case1 => rfl
  | case2 w x rest h => exact absurd rfl (hpad '=' (by simp))
  | case3 w x y z rest h => exact absurd h.2 (hpad z (by simp))
  | case4 w x y z rest h ih =>
    have hz : z ≠ '=' := hpad z (by simp)
    have hrest := ih (fun c hc => hpad c (by simp [hc])) (by simp only [List.length_cons] at hl; omega)
    rw [padding_group]
    simp only [List.cons_append, unpad?]
    rw [if_neg fun h => hz h.2, hrest]
    rfl
  | case5 cs h0 h4 =>
    match cs, h0, h4 with
    | [], h0, _ => exact absurd rfl h0
    | [a], _, _ => exact absurd rfl hl
    | [a, b], _, _ => rfl
    | [a, b, c], _, _ =>
      have hc : c ≠ '=' := hpad c (by simp)
      show (if ([] : List Char) = [] ∧ '=' = '=' then if c = '=' then some [a, b] else some [a, b, c] else _) = _
      rw [if_pos ⟨rfl, rfl⟩, if_neg hc]
    | a :: b :: c :: d :: rest, _, h4 => exact absurd rfl (h4 a b c d rest)

/-- What padding is taken off had the padding that completes its last group. -/
theorem eq_append_padding_of_unpad? {cs symbols : List Char} (h : unpad? cs = some symbols) :
    cs = symbols ++ padding symbols.length := by
  fun_induction unpad? cs generalizing symbols with
  | case1 =>
    cases h
    rfl
  | case2 w x z rest hend =>
    obtain ⟨rfl, rfl⟩ := hend
    cases h
    rfl
  | case3 w x y z rest hend hy =>
    obtain ⟨rfl, rfl⟩ := hend
    cases h
    rfl
  | case4 w x y z rest hend ih =>
    obtain ⟨more, hmore, rfl⟩ := Option.map_eq_some_iff.mp h
    rw [padding_group, List.cons_append, List.cons_append, List.cons_append, List.cons_append, ← ih hmore]
  | case5 cs h0 h4 => cases h

/-! ### Padded spellings -/

/-- The padded spelling of octets is read back. -/
theorem decode?_encode (bs : Bytes) : decode? (encode bs) = some bs := by
  have hsym : ∀ c ∈ (sextets bs).map (symbol standard), c ≠ '=' := by
    intro c hc
    obtain ⟨n, hn, rfl⟩ := List.mem_map.mp hc
    exact symbol_ne_pad (lt_of_mem_sextets hn)
  have hlen : ((sextets bs).map (symbol standard)).length % 4 ≠ 1 := by
    rw [List.length_map, length_sextets]
    omega
  rw [decode?, encode, String.toList_ofList, unpad?_append_padding _ hsym hlen]
  exact (octets_of_symbols_iff isAlphabet_standard).mpr rfl

/-- A text that is read as octets is their padded spelling. -/
theorem eq_encode_of_decode? {text : String} {bs : Bytes} (h : decode? text = some bs) : text = encode bs := by
  obtain ⟨symbols, hsymbols, hoctets⟩ := Option.bind_eq_some_iff.mp h
  obtain rfl := (octets_of_symbols_iff isAlphabet_standard).mp hoctets
  rw [encode, ← eq_append_padding_of_unpad? hsymbols, String.ofList_toList]

/-- Reading accepts the padded spellings, and no other text. -/
theorem decode?_eq_some_iff {text : String} {bs : Bytes} : decode? text = some bs ↔ text = encode bs := by
  constructor
  · exact eq_encode_of_decode?
  · rintro rfl
    exact decode?_encode bs

/-! ### Spellings without padding -/

/-- Reading accepts the unpadded spellings, and no other text. -/
theorem decodeUrl?_eq_some_iff {text : String} {bs : Bytes} : decodeUrl? text = some bs ↔ text = encodeUrl bs := by
  have hsymbols : decodeUrl? text = some bs ↔ text.toList = (sextets bs).map (symbol urlSafe) :=
    octets_of_symbols_iff isAlphabet_urlSafe
  rw [hsymbols, encodeUrl, ← String.toList_inj, String.toList_ofList]

/-- Bits that fill up the last group are zero, and nothing stands behind it. -/
example : decodeUrl? "-_8" = some [0xfb, 0xff] ∧ decodeUrl? "-_9" = none ∧ decodeUrl? "-_8=" = none := by decide

/-- The unpadded spelling of octets is read back. -/
theorem decodeUrl?_encodeUrl (bs : Bytes) : decodeUrl? (encodeUrl bs) = some bs := decodeUrl?_eq_some_iff.mpr rfl

/-- Octets that are spelt alike are the same. -/
theorem encodeUrl_inj {bs bs' : Bytes} : encodeUrl bs = encodeUrl bs' ↔ bs = bs' := by
  constructor
  · intro h
    have hread := decodeUrl?_encodeUrl bs
    rw [h, decodeUrl?_encodeUrl] at hread
    exact (Option.some.inj hread).symm
  · rintro rfl
    rfl

end SessionVault.Base64
