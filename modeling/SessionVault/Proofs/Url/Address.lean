import Mathlib.Algebra.Group.Nat.Defs
import Mathlib.Data.List.Induction
import SessionVault.Url.Address

/-!
# Addresses are read back

An address of the version 6 is written with its first longest gap of zeros left out.  Reading what is written
gives the pieces back, and whatever is read has eight pieces of sixteen bits.

* `cut_intercalate` — parts with separators between them are cut into the parts;
* `hexPiece_toDigits`, `pieces_map_toDigits` — pieces are read back;
* `gap_append`, `gap_piecesText` — parts and pieces in front hold no double colon;
* `longestGap_spec` — the gap left out holds zeros only;
* `readIpv6_ipv6Text`, `readIpv6_spec` — addresses are read back, and what is read is an address.
-/

namespace SessionVault.Url

/-! ### Cutting -/

section Cut

variable {α : Type} {separator : α → Bool}

theorem cut_cons_of_not {c : α} (h : separator c = false) {rest part : List α} {parts : List (List α)}
    (hrest : cut separator rest = part :: parts) : cut separator (c :: rest) = (c :: part) :: parts := by
  rw [cut, h, hrest]
  rfl

theorem cut_eq_singleton {part : List α} (h : ∀ c ∈ part, separator c = false) : cut separator part = [part] := by
  induction part with
  | nil => rfl
  | cons c part ih =>
    exact cut_cons_of_not (h c List.mem_cons_self) (ih fun d hd => h d (List.mem_cons_of_mem c hd))

theorem cut_append {part : List α} (h : ∀ c ∈ part, separator c = false) {s : α} (hs : separator s = true)
    (rest : List α) : cut separator (part ++ s :: rest) = part :: cut separator rest := by
  induction part with
  | nil => rw [List.nil_append, cut, hs, if_pos rfl]
  | cons c part ih =>
    exact cut_cons_of_not (h c List.mem_cons_self) (ih fun d hd => h d (List.mem_cons_of_mem c hd))

/-- Parts without a separator, with one between any two, are cut into the parts. -/
theorem cut_intercalate {s : α} (hs : separator s = true) {parts : List (List α)} (hne : parts ≠ [])
    (h : ∀ part ∈ parts, ∀ c ∈ part, separator c = false) :
    cut separator ([s].intercalate parts) = parts := by
  induction parts with
  | nil => exact absurd rfl hne
  | cons part rest ih =>
    have hpart := h part List.mem_cons_self
    cases rest with
    | nil => simpa [List.intercalate] using cut_eq_singleton hpart
    | cons next rest =>
      have hrest := ih (List.cons_ne_nil _ _) fun p hp => h p (List.mem_cons_of_mem part hp)
      rw [List.intercalate_cons_cons, List.append_assoc, List.singleton_append, cut_append hpart hs, hrest]

/-- No part holds a separator. -/
theorem of_mem_cut {cs part : List α} (hp : part ∈ cut separator cs) {c : α} (hc : c ∈ part) :
    c ∈ cs ∧ separator c = false := by
  induction cs generalizing part with
  | nil =>
    rw [cut, List.mem_singleton] at hp
    exact absurd (hp ▸ hc) List.not_mem_nil
  | cons d rest ih =>
    cases hd : separator d with
    | true =>
      rw [cut, hd, if_pos rfl] at hp
      rcases List.mem_cons.1 hp with rfl | hp
      · exact absurd hc List.not_mem_nil
      · exact ⟨List.mem_cons_of_mem d (ih hp hc).1, (ih hp hc).2⟩
    | false =>
      rw [cut, hd, if_neg Bool.false_ne_true] at hp
      cases hrest : cut separator rest with
      | nil =>
        rw [hrest, List.mem_singleton] at hp
        rw [hp, List.mem_singleton] at hc
        exact ⟨hc ▸ List.mem_cons_self, hc ▸ hd⟩
      | cons front parts =>
        rw [hrest] at hp
        rcases List.mem_cons.1 hp with rfl | hp
        · rcases List.mem_cons.1 hc with rfl | hc
          · exact ⟨List.mem_cons_self, hd⟩
          · have hfront := ih (hrest ▸ List.mem_cons_self) hc
            exact ⟨List.mem_cons_of_mem d hfront.1, hfront.2⟩
        · have hback := ih (hrest ▸ List.mem_cons_of_mem front hp) hc
          exact ⟨List.mem_cons_of_mem d hback.1, hback.2⟩

end Cut

/-! ### Pieces -/

/-- The digits of a piece are read back, and are neither colons nor points. -/
theorem digitIn_digitChar : ∀ d < 16, digitIn 16 (Nat.digitChar d) = some d ∧
    Nat.digitChar d ≠ ':' ∧ Nat.digitChar d ≠ '.' := by decide

theorem exists_of_mem_toDigits {n : Nat} {c : Char} (h : c ∈ Nat.toDigits 16 n) :
    ∃ d < 16, c = Nat.digitChar d := by
  induction n using Nat.strongRecOn with
  | ind n ih =>
    by_cases hn : n < 16
    · rw [Nat.toDigits_of_lt_base hn, List.mem_singleton] at h
      exact ⟨n, hn, h⟩
    · rw [Nat.toDigits_of_base_le (by decide) (Nat.le_of_not_lt hn), List.mem_append, List.mem_singleton] at h
      rcases h with h | h
      · exact ih (n / 16) (by omega) h
      · exact ⟨n % 16, by omega, h⟩

theorem numberIn_append_singleton (base : Nat) (cs : List Char) (c : Char) :
    numberIn base (cs ++ [c]) = do return (← numberIn base cs) * base + (← digitIn base c) := by
  rw [numberIn, List.foldl_append]
  rfl

theorem numberIn_toDigits (n : Nat) : numberIn 16 (Nat.toDigits 16 n) = some n := by
  induction n using Nat.strongRecOn with
  | ind n ih =>
    by_cases hn : n < 16
    · rw [Nat.toDigits_of_lt_base hn, ← List.nil_append [n.digitChar], numberIn_append_singleton,
        (digitIn_digitChar n hn).1]
      show some (0 * 16 + n) = some n
      rw [Nat.zero_mul, Nat.zero_add]
    · rw [Nat.toDigits_of_base_le (by decide) (Nat.le_of_not_lt hn), numberIn_append_singleton,
        ih (n / 16) (by omega), (digitIn_digitChar (n % 16) (by omega)).1]
      exact congrArg some (Nat.div_add_mod' n 16)

theorem hexPiece_toDigits {p : Nat} (h : p < 65536) : hexPiece (Nat.toDigits 16 p) = some p := by
  have hlen : (Nat.toDigits 16 p).length ≤ 4 := (Nat.length_toDigits_le_iff (by decide) (by decide)).2 h
  rw [hexPiece, if_neg, numberIn_toDigits]
  rintro (hempty | hlong)
  · exact Nat.toDigits_ne_nil (List.isEmpty_iff.1 hempty)
  · exact absurd hlong (Nat.not_lt.2 hlen)

/-- Pieces are read back, at the end of an address too. -/
theorem pieces_map_toDigits (atEnd : Bool) {ps : List Nat} (h : ∀ p ∈ ps, p < 65536) :
    pieces atEnd (ps.map (Nat.toDigits 16)) = some ps := by
  induction ps with
  | nil => rfl
  | cons p ps ih =>
    have hp := hexPiece_toDigits (h p List.mem_cons_self)
    have hps := ih fun q hq => h q (List.mem_cons_of_mem p hq)
    cases ps with
    | nil =>
      have hpoint : ¬ (Nat.toDigits 16 p).contains '.' = true := fun hc => by
        obtain ⟨d, hd, heq⟩ := exists_of_mem_toDigits (List.contains_iff_mem.1 hc)
        exact (digitIn_digitChar d hd).2.2 heq.symm
      rw [List.map_singleton, pieces, if_neg fun hc => hpoint hc.2, hp]
      rfl
    | cons q qs =>
      rw [List.map_cons] at hps ⊢
      rw [List.map_cons, pieces, hp, hps]
      · rfl
      · exact List.cons_ne_nil _ _

/-! ### Gaps -/

theorem gap_cons {c : Char} {cs : List Char} (h : c ≠ ':' ∨ cs.head? ≠ some ':') :
    gap (c :: cs) = (gap cs).map fun (front, back) => (c :: front, back) := by
  cases cs with
  | nil => rfl
  | cons d cs =>
    rw [gap, if_neg]
    rintro ⟨rfl, rfl⟩
    exact h.elim (fun hc => hc rfl) fun hd => hd rfl

theorem gap_part {part : List Char} (h : ∀ c ∈ part, c ≠ ':') (rest : List Char) :
    gap (part ++ rest) = (gap rest).map fun (front, back) => (part ++ front, back) := by
  induction part with
  | nil => simp
  | cons c part ih =>
    rw [List.cons_append, gap_cons (.inl (h c List.mem_cons_self)),
      ih fun d hd => h d (List.mem_cons_of_mem c hd), Option.map_map]
    rfl

/-- There is no double colon before the end of parts that are not empty. -/
theorem gap_append {parts : List (List Char)} (hne : ∀ part ∈ parts, part ≠ [])
    (h : ∀ part ∈ parts, ∀ c ∈ part, c ≠ ':') (rest : List Char) :
    gap ([':'].intercalate parts ++ rest) =
      (gap rest).map fun (front, back) => ([':'].intercalate parts ++ front, back) := by
  induction parts with
  | nil => simp
  | cons part parts ih =>
    have hpart := h part List.mem_cons_self
    cases parts with
    | nil =>
      have hone : [':'].intercalate [part] = part := by simp [List.intercalate]
      rw [hone, gap_part hpart]
    | cons next parts =>
      have hrest := ih (fun p hp => hne p (List.mem_cons_of_mem part hp)) fun p hp => h p (List.mem_cons_of_mem part hp)
      have hnext := hne next (List.mem_cons_of_mem part List.mem_cons_self)
      have hhead : ([':'].intercalate (next :: parts) ++ rest).head? ≠ some ':' := by
        obtain ⟨c, cs, rfl⟩ := List.exists_cons_of_ne_nil hnext
        have hc := h _ (List.mem_cons_of_mem part List.mem_cons_self) c List.mem_cons_self
        cases parts <;> simpa [List.intercalate] using hc
      rw [List.intercalate_cons_cons, List.append_assoc, List.append_assoc, List.singleton_append, gap_part hpart,
        gap_cons (.inr hhead), hrest, Option.map_map, Option.map_map]
      congr 1
      funext fb
      simp

/-- As many pieces as a gap is long are zeros. -/
theorem eq_replicate_append {ps : List Nat} {n : Nat} (h : n ≤ zeros ps) :
    ps = List.replicate n 0 ++ ps.drop n := by
  induction ps generalizing n with
  | nil =>
    have hn : n = 0 := Nat.le_zero.1 h
    rw [hn]
    rfl
  | cons p ps ih =>
    cases n with
    | zero => rfl
    | succ n =>
      by_cases hp : p = 0
      · have hn : n ≤ zeros ps := by simpa [zeros, hp] using h
        rw [hp, List.replicate_succ, List.drop_succ_cons, List.cons_append, ← ih hn]
      · simp [zeros, hp] at h

/-- The longest gap holds zeros only. -/
theorem longestGap_spec (ps : List Nat) : (longestGap ps).2 ≤ zeros (ps.drop (longestGap ps).1) := by
  rw [longestGap]
  refine List.foldlRecOn (motive := fun best : Nat × Nat => best.2 ≤ zeros (ps.drop best.1)) _ _
    (Nat.zero_le _) fun best ih i _ => ?_
  by_cases h : best.2 < zeros (ps.drop i)
  · simp only [h, if_true, Nat.le_refl]
  · simp only [h, if_false]
    exact ih

/-! ### Addresses -/

theorem part_toDigits {ps : List Nat} {part : List Char} (h : part ∈ ps.map (Nat.toDigits 16)) :
    part ≠ [] ∧ ∀ c ∈ part, c ≠ ':' := by
  obtain ⟨p, -, rfl⟩ := List.mem_map.1 h
  refine ⟨Nat.toDigits_ne_nil, fun c hc => ?_⟩
  obtain ⟨d, hd, rfl⟩ := exists_of_mem_toDigits hc
  exact (digitIn_digitChar d hd).2.1

theorem toList_piecesText (ps : List Nat) :
    (piecesText ps).toList = [':'].intercalate (ps.map (Nat.toDigits 16)) := by
  rw [piecesText, String.toList_intercalate, List.map_map]
  congr 1
  exact List.map_congr_left fun p _ => String.toList_ofList

/-- Pieces with colons between them are cut and read back. -/
theorem pieces_cut (atEnd : Bool) {ps : List Nat} (hne : ps ≠ []) (h : ∀ p ∈ ps, p < 65536) :
    pieces atEnd (cut (· == ':') (piecesText ps).toList) = some ps := by
  have hparts : ∀ part ∈ ps.map (Nat.toDigits 16), ∀ c ∈ part, (c == ':') = false :=
    fun part hpart c hc => beq_eq_false_iff_ne.2 ((part_toDigits hpart).2 c hc)
  rw [toList_piecesText, cut_intercalate rfl (fun hnil => hne (List.map_eq_nil_iff.1 hnil)) hparts]
  exact pieces_map_toDigits atEnd h

theorem side_piecesText (atEnd : Bool) {ps : List Nat} (h : ∀ p ∈ ps, p < 65536) :
    side atEnd (piecesText ps).toList = some ps := by
  by_cases hne : ps = []
  · rw [hne]
    rfl
  · have hpieces := pieces_cut atEnd hne h
    have hnone : pieces atEnd (cut (· == ':') []) = none := by cases atEnd <;> rfl
    rw [side, if_neg, hpieces]
    intro hempty
    rw [List.isEmpty_iff.1 hempty, hnone] at hpieces
    cases hpieces

theorem gap_piecesText (ps : List Nat) (rest : List Char) :
    gap ((piecesText ps).toList ++ rest) =
      (gap rest).map fun (front, back) => ((piecesText ps).toList ++ front, back) := by
  rw [toList_piecesText]
  exact gap_append (fun part hp => (part_toDigits hp).1) (fun part hp => (part_toDigits hp).2) rest

/-- An address is read back from its text. -/
theorem readIpv6_ipv6Text {ps : List Nat} (hlen : ps.length = 8) (h : ∀ p ∈ ps, p < 65536) :
    readIpv6 (ipv6Text ps).toList = some ps := by
  have hzeros := longestGap_spec ps
  rw [ipv6Text]
  cases hgap : longestGap ps with
  | mk start n =>
    rw [hgap] at hzeros
    by_cases hn : n < 2
    · have hnone : gap (piecesText ps).toList = none := by simpa [gap] using gap_piecesText ps []
      have hne : ps ≠ [] := fun hnil => by simp [hnil] at hlen
      simp only [hn, if_true, readIpv6, hnone, pieces_cut true hne h, Option.bind_eq_bind, Option.bind_some, hlen]
    · have hsplit : ps = ps.take start ++ (List.replicate n 0 ++ ps.drop (start + n)) := by
        rw [← List.drop_drop, ← eq_replicate_append hzeros, List.take_append_drop]
      have htotal := congrArg List.length hsplit
      rw [List.length_append, List.length_append, List.length_replicate, hlen] at htotal
      have hmissing : 8 - ((ps.take start).length + (ps.drop (start + n)).length) = n := by omega
      have htext : (piecesText (ps.take start) ++ "::" ++ piecesText (ps.drop (start + n))).toList =
          (piecesText (ps.take start)).toList ++ ':' :: ':' :: (piecesText (ps.drop (start + n))).toList := by
        simp
      have hfront := side_piecesText false fun p hp => h p (List.mem_of_mem_take (i := start) hp)
      have hback := side_piecesText true fun p hp => h p (List.mem_of_mem_drop (i := start + n) hp)
      have hpos : n ≠ 0 := by omega
      simp only [hn, if_false, readIpv6, htext, gap_piecesText, gap, and_self, if_true, Option.map_some,
        List.append_nil, hfront, hback, Option.bind_eq_bind, Option.bind_some, hmissing, hpos]
      rw [List.append_assoc, ← hsplit]

/-! ### What is read -/

theorem lt_of_digitIn {base d : Nat} {c : Char} (h : digitIn base c = some d) : d < base :=
  of_decide_eq_true (Option.filter_eq_some_iff.1 h).2

/-- A number has no more value than its digits allow. -/
theorem lt_of_numberIn {base n : Nat} {cs : List Char} (h : numberIn base cs = some n) : n < base ^ cs.length := by
  induction cs using List.reverseRecOn generalizing n with
  | nil =>
    rw [← Option.some.inj h]
    exact Nat.one_pos
  | append_singleton cs c ih =>
    rw [numberIn_append_singleton] at h
    obtain ⟨m, hm, h⟩ := Option.bind_eq_some_iff.1 h
    obtain ⟨d, hd, h⟩ := Option.bind_eq_some_iff.1 h
    have hlt := lt_of_digitIn hd
    rw [← Option.some.inj h, List.length_append, List.length_singleton, Nat.pow_succ]
    calc m * base + d < m * base + base := Nat.add_lt_add_left hlt _
      _ = (m + 1) * base := (Nat.succ_mul m base).symm
      _ ≤ base ^ cs.length * base := Nat.mul_le_mul_right base (ih hm)

theorem lt_of_hexPiece {cs : List Char} {n : Nat} (h : hexPiece cs = some n) : n < 65536 := by
  rw [hexPiece] at h
  split at h
  · cases h
  · next hlen =>
    have hle : cs.length ≤ 4 := Nat.not_lt.1 fun hlt => hlen (.inr hlt)
    exact Nat.lt_of_lt_of_le (lt_of_numberIn h) (Nat.pow_le_pow_right (by decide) hle)

theorem lt_of_decimalPart {cs : List Char} {n : Nat} (h : decimalPart cs = some n) : n < 256 := by
  unfold decimalPart at h
  split at h
  · cases h
  · rw [← Option.some.inj h]
    decide
  · cases h
  · exact of_decide_eq_true (Option.filter_eq_some_iff.1 h).2

/-- What parts are read as has been read from one of them. -/
theorem exists_of_mem_mapM {α β : Type} {f : α → Option β} {as : List α} {bs : List β} (h : as.mapM f = some bs)
    {b : β} (hb : b ∈ bs) : ∃ a ∈ as, f a = some b := by
  induction as generalizing bs with
  | nil =>
    rw [← Option.some.inj h] at hb
    exact absurd hb List.not_mem_nil
  | cons a as ih =>
    rw [List.mapM_cons] at h
    obtain ⟨first, hfirst, h⟩ := Option.bind_eq_some_iff.1 h
    obtain ⟨rest, hrest, h⟩ := Option.bind_eq_some_iff.1 h
    rw [← Option.some.inj h] at hb
    rcases List.mem_cons.1 hb with rfl | hb
    · exact ⟨a, List.mem_cons_self, hfirst⟩
    · obtain ⟨c, hc, hfc⟩ := ih hrest hb
      exact ⟨c, List.mem_cons_of_mem a hc, hfc⟩

theorem lt_of_decimalPieces {cs : List Char} {ps : List Nat} (h : decimalPieces cs = some ps) :
    ∀ p ∈ ps, p < 65536 := by
  obtain ⟨parts, hparts, h⟩ := Option.bind_eq_some_iff.1 h
  have hlt : ∀ n ∈ parts, n < 256 := fun n hn => by
    obtain ⟨part, -, hpart⟩ := exists_of_mem_mapM hparts hn
    exact lt_of_decimalPart hpart
  split at h
  · next a b c d =>
    have ha := hlt a (by simp)
    have hb := hlt b (by simp)
    have hc := hlt c (by simp)
    have hd := hlt d (by simp)
    rw [← Option.some.inj h]
    simp only [List.mem_cons, List.not_mem_nil, or_false]
    rintro p (rfl | rfl) <;> omega
  · cases h

theorem lt_of_pieces {atEnd : Bool} {parts : List (List Char)} {ps : List Nat} (h : pieces atEnd parts = some ps) :
    ∀ p ∈ ps, p < 65536 := by
  induction parts generalizing ps with
  | nil =>
    rw [← Option.some.inj h]
    exact fun p hp => absurd hp List.not_mem_nil
  | cons part parts ih =>
    cases parts with
    | nil =>
      rw [pieces] at h
      split at h
      · exact lt_of_decimalPieces h
      · obtain ⟨n, hn, rfl⟩ := Option.map_eq_some_iff.1 h
        exact fun p hp => List.mem_singleton.1 hp ▸ lt_of_hexPiece hn
    | cons next parts =>
      rw [pieces] at h
      · obtain ⟨n, hn, h⟩ := Option.bind_eq_some_iff.1 h
        obtain ⟨rest, hrest, h⟩ := Option.bind_eq_some_iff.1 h
        rw [← Option.some.inj h]
        exact List.forall_mem_cons.2 ⟨lt_of_hexPiece hn, ih hrest⟩
      · exact List.cons_ne_nil _ _

theorem lt_of_side {atEnd : Bool} {cs : List Char} {ps : List Nat} (h : side atEnd cs = some ps) :
    ∀ p ∈ ps, p < 65536 := by
  rw [side] at h
  split at h
  · rw [← Option.some.inj h]
    exact fun p hp => absurd hp List.not_mem_nil
  · exact lt_of_pieces h

/-- What is read is an address: eight pieces of sixteen bits. -/
theorem readIpv6_spec {cs : List Char} {ps : List Nat} (h : readIpv6 cs = some ps) :
    ps.length = 8 ∧ ∀ p ∈ ps, p < 65536 := by
  rw [readIpv6] at h
  split at h
  · obtain ⟨qs, hqs, h⟩ := Option.bind_eq_some_iff.1 h
    split at h
    · next hlen =>
      rw [← Option.some.inj h]
      exact ⟨hlen, lt_of_pieces hqs⟩
    · cases h
  · obtain ⟨front, hfront, h⟩ := Option.bind_eq_some_iff.1 h
    obtain ⟨back, hback, h⟩ := Option.bind_eq_some_iff.1 h
    simp only at h
    split at h
    · cases h
    · next hmissing =>
      rw [← Option.some.inj h]
      refine ⟨?_, fun p hp => ?_⟩
      · rw [List.length_append, List.length_append, List.length_replicate]
        omega
      · rcases List.mem_append.1 hp with hp | hp
        · rcases List.mem_append.1 hp with hp | hp
          · exact lt_of_side hfront p hp
          · rw [List.eq_of_mem_replicate hp]
            decide
        · exact lt_of_side hback p hp

end SessionVault.Url
