import SessionVault.Json.Payload
import SessionVault.Proofs.Json.Numeral

/-!
# Numbers read back from their text

Every number is written as a proper numeral (`exists_spelling`): integers by their digits, reals by the digits of
their shortest decimal, which are not zero unless the number is (`shortest_ne_zero`).  So the text of a number is
scanned as one numeral, wherever it stands, and says one number or none (`Number.again`):

* `Number.scan?_text` — the text of a number in front of what cannot belong to it;
* `Number.again_int` — an integer that fits 64 bits is read back.

A real is read back if its own text says so; the digits are taken in rounded steps, and not every real is.
-/

namespace SessionVault

namespace Floating

/-! ### Shortest decimals -/

theorem interval_low_pos (f : Format) {x : Binary} (h : x.significand ≠ 0) : 0 < (x.interval f).low := by
  rw [Binary.interval]
  dsimp only
  split <;> omega

/-- No number but zero is read from zero. -/
theorem contains_zero {i : Interval} (h : 0 < i.low) (k : Int) : i.contains 0 k = false := by
  have hpos : 0 < i.low * Nat.pow 2 i.unit.toNat * Nat.pow 10 (-k).toNat :=
    Nat.mul_pos (Nat.mul_pos h (Nat.pow_pos (by decide))) (Nat.pow_pos (by decide))
  have hbelow : compareScaled 0 k i.low i.unit = .lt := by
    rw [compareScaled, Nat.zero_mul, Nat.zero_mul]
    exact Nat.compare_eq_lt.mpr hpos
  have hout : (Ordering.lt == .gt || (i.closed && Ordering.lt == .eq)) = false := by
    cases i.closed <;> rfl
  rw [Interval.contains, hbelow]
  show (_ && _) = false
  rw [hout, Bool.false_and]

theorem Fraction.le_nearest (x : Fraction) : x.num / x.den ≤ x.nearest := by
  rw [Fraction.nearest]
  split
  · exact Nat.le_refl _
  · split <;> omega

theorem hit?_ne_zero {f : Format} {x : Binary} (h : x.significand ≠ 0) {k : Int} {d : Nat}
    (hd : hit? f x k = some d) : d ≠ 0 := by
  have hzero := contains_zero (interval_low_pos f h) k
  rw [hit?] at hd
  have hnearest := Fraction.le_nearest (x.inUnits k)
  generalize hq : (x.inUnits k).num / (x.inUnits k).den = q at hd hnearest
  cases hbelow : (x.interval f).contains q k with
  | true =>
    have hq0 : q ≠ 0 := by
      rintro rfl
      rw [hzero] at hbelow
      cases hbelow
    cases habove : (x.interval f).contains (q + 1) k with
    | true =>
      rw [hbelow, habove] at hd
      cases hd
      omega
    | false =>
      rw [hbelow, habove] at hd
      cases hd
      exact hq0
  | false =>
    cases habove : (x.interval f).contains (q + 1) k with
    | true =>
      rw [hbelow, habove] at hd
      cases hd
      exact Nat.succ_ne_zero q
    | false =>
      rw [hbelow, habove] at hd
      cases hd

theorem firstHit_ne_zero {f : Format} {x : Binary} (h : x.significand ≠ 0) (count : Nat) (k : Int) :
    (firstHit f x count k).digits ≠ 0 := by
  induction count generalizing k with
  | zero => exact Nat.succ_ne_zero _
  | succ count ih =>
    rw [firstHit]
    split
    · rename_i d hd
      exact hit?_ne_zero h hd
    · exact ih (k - 1)

theorem trim_ne_zero (count : Nat) {d : Decimal} (h : d.digits ≠ 0) : (d.trim count).digits ≠ 0 := by
  induction count generalizing d with
  | zero => exact h
  | succ count ih =>
    rw [Decimal.trim]
    split
    · refine ih ?_
      show d.digits / 10 ≠ 0
      omega
    · exact h

/-- The shortest decimal of a number has no zero digits, or it is zero itself. -/
theorem shortest_ne_zero (f : Format) (x : Binary) : (shortest f x).digits ≠ 0 ∨ (shortest f x).exponent = 0 := by
  rw [shortest]
  split
  · exact Or.inr rfl
  · rename_i h
    exact Or.inl (trim_ne_zero 20 (firstHit_ne_zero h 20 _))

end Floating

namespace Numeral

open Floating

/-! ### Decimals as numerals -/

/-- Characters that are a proper numeral without a sign. -/
def Unsigned (cs : List Char) : Prop := ∃ s : Spelling, s.Proper ∧ s.negative = false ∧ s.text = cs

theorem digitsOf_digits (n : Nat) : ∀ c ∈ digitsOf n, Natural.isDigit c = true := fun _ h =>
  Natural.isDigit_of_mem_toDigits h

theorem digitsOf_ne_nil (n : Nat) : digitsOf n ≠ [] := Nat.toDigits_ne_nil

theorem digitsOf_front (n : Nat) : digitsOf n = ['0'] ∨ digitsOf n ≠ [] ∧ (digitsOf n).head? ≠ some '0' := by
  by_cases h : n = 0
  · subst h
    exact Or.inl rfl
  · exact Or.inr ⟨digitsOf_ne_nil n, Natural.head?_toDigits h⟩

theorem zeros_digits {k : Nat} : ∀ c ∈ List.replicate k '0', Natural.isDigit c = true := by
  intro c hc
  rw [List.eq_of_mem_replicate hc]
  rfl

/-- Digits on both sides of a point are a proper numeral, if no zero stands in front of other digits. -/
theorem unsigned_point {whole behind : List Char} (hwhole : ∀ c ∈ whole, Natural.isDigit c = true)
    (hfront : whole = ['0'] ∨ whole ≠ [] ∧ whole.head? ≠ some '0') (hne : behind ≠ [])
    (hbehind : ∀ c ∈ behind, Natural.isDigit c = true) : Unsigned (whole ++ '.' :: behind) := by
  refine ⟨⟨false, whole, some behind, none⟩, ⟨hwhole, hfront, ?_, ?_⟩, rfl, ?_⟩
  · intro ds hds
    cases hds
    exact ⟨hne, hbehind⟩
  · intro e he
    cases he
  · simp [Spelling.text, Spelling.fractionText, Spelling.exponentText]

/-- Zeros behind the digits of a number, which are not its only digits, put no zero in front. -/
theorem front_append_zeros {n k : Nat} (h : n ≠ 0 ∨ k = 0) :
    digitsOf n ++ List.replicate k '0' = ['0'] ∨
      digitsOf n ++ List.replicate k '0' ≠ [] ∧ (digitsOf n ++ List.replicate k '0').head? ≠ some '0' := by
  rcases h with h | rfl
  · refine Or.inr ⟨fun h0 => digitsOf_ne_nil _ (List.append_eq_nil_iff.mp h0).1, ?_⟩
    have hfront : (digitsOf n).head? ≠ some '0' := Natural.head?_toDigits h
    obtain ⟨c, cs, hcs⟩ := List.exists_cons_of_ne_nil (digitsOf_ne_nil n)
    rw [hcs] at hfront ⊢
    exact hfront
  · rw [List.replicate_zero, List.append_nil]
    exact digitsOf_front n

theorem positional_unsigned {d : Decimal} (h : d.digits ≠ 0 ∨ d.exponent = 0) : Unsigned d.positional := by
  have hds := digitsOf_digits d.digits
  have hne := digitsOf_ne_nil d.digits
  rw [Decimal.positional]
  dsimp only
  split
  · -- Zeros behind the digits, and one behind the point.
    refine unsigned_point ?_ (front_append_zeros (h.imp_right fun h0 => by rw [h0]; rfl)) (List.cons_ne_nil _ _)
      (zeros_digits (k := 1))
    intro c hc
    exact (List.mem_append.mp hc).elim (hds c) (zeros_digits c)
  · rename_i hneg
    have hd : d.digits ≠ 0 := h.resolve_right fun h0 => hneg (by omega)
    split
    · -- The point stands among the digits.
      rename_i hplaces
      refine unsigned_point (fun c hc => hds c (List.mem_of_mem_take hc)) (Or.inr ⟨?_, ?_⟩) ?_
        fun c hc => hds c (List.mem_of_mem_drop hc)
      · rw [Ne, List.take_eq_nil_iff, not_or]
        exact ⟨by omega, hne⟩
      · rw [List.head?_take, if_neg (by omega)]
        exact Natural.head?_toDigits hd
      · rw [Ne, List.drop_eq_nil_iff]
        omega
    · -- All digits stand behind the point.
      refine unsigned_point (zeros_digits (k := 1)) (Or.inl rfl)
        (fun h0 => hne (List.append_eq_nil_iff.mp h0).2) ?_
      intro c hc
      exact (List.mem_append.mp hc).elim (zeros_digits c) (hds c)

theorem scientific_unsigned (d : Decimal) : Unsigned d.scientific := by
  rw [Decimal.scientific]
  generalize d.exponent + ((digitsOf d.digits).length - 1 : Nat) = e
  have hds := digitsOf_digits d.digits
  have hne := digitsOf_ne_nil d.digits
  have hexp : ∀ p ∈ some (!decide (0 ≤ e), digitsOf e.natAbs), p.2 ≠ [] ∧ ∀ c ∈ p.2, Natural.isDigit c = true := by
    intro p hp
    cases hp
    exact ⟨digitsOf_ne_nil _, digitsOf_digits _⟩
  have hsign : (if e < 0 then '-' else '+') = if 0 ≤ e then '+' else '-' := by
    by_cases h : 0 ≤ e
    · rw [if_neg (Int.not_lt.mpr h), if_pos h]
    · rw [if_pos (Int.not_le.mp h), if_neg h]
  have hfront : ∀ c : Char, [c] = ['0'] ∨ [c] ≠ [] ∧ [c].head? ≠ some '0' := by
    intro c
    by_cases h : c = '0'
    · exact Or.inl (by rw [h])
    · exact Or.inr ⟨by simp, by simpa using h⟩
  match hd : digitsOf d.digits with
  | [] => exact absurd hd hne
  | [c] =>
    refine ⟨⟨false, [c], none, some (!decide (0 ≤ e), digitsOf e.natAbs)⟩, ⟨?_, hfront c, ?_, hexp⟩, rfl, ?_⟩
    · rw [hd] at hds
      exact hds
    · intro ds hds
      cases hds
    · simp [Spelling.text, Spelling.fractionText, Spelling.exponentText, hsign]
  | c :: a :: rest =>
    rw [hd] at hds
    refine ⟨⟨false, [c], some (a :: rest), some (!decide (0 ≤ e), digitsOf e.natAbs)⟩,
      ⟨?_, hfront c, ?_, hexp⟩, rfl, ?_⟩
    · intro b hb
      exact hds b (by rw [List.mem_singleton.mp hb]; exact List.mem_cons_self)
    · intro ds hds'
      cases hds'
      exact ⟨by simp, fun b hb => hds b (List.mem_cons_of_mem _ hb)⟩
    · simp [Spelling.text, Spelling.fractionText, Spelling.exponentText, hsign]

theorem write_unsigned (l : Layout) {d : Decimal} (h : d.digits ≠ 0 ∨ d.exponent = 0) : Unsigned (l.write d) := by
  rw [Layout.write]
  split
  · exact positional_unsigned h
  · exact scientific_unsigned d

/-- The characters of a proper numeral are one octet each. -/
theorem Spelling.Proper.plain {s : Spelling} (hs : s.Proper) : ∀ c ∈ s.text, c.toNat < 128 := by
  have hdigit : ∀ c, Natural.isDigit c = true → c.toNat < 128 := fun c hc => by
    have := toNat_of_isDigit hc
    omega
  intro c hc
  rcases List.mem_append.mp hc with hc | hc
  · split at hc
    · rw [List.mem_singleton.mp hc]
      decide
    · cases hc
  rcases List.mem_append.mp hc with hc | hc
  · exact hdigit c (hs.whole_digits c hc)
  rcases List.mem_append.mp hc with hc | hc
  · cases hf : s.fraction with
    | none =>
      rw [Spelling.fractionText, hf] at hc
      cases hc
    | some ds =>
      rw [Spelling.fractionText, hf] at hc
      rcases List.mem_cons.mp hc with rfl | hc
      · decide
      · exact hdigit c ((hs.fraction_digits ds hf).2 c hc)
  · cases he : s.exponent with
    | none =>
      rw [Spelling.exponentText, he] at hc
      cases hc
    | some e =>
      obtain ⟨minus, ds⟩ := e
      rw [Spelling.exponentText, he] at hc
      rcases List.mem_cons.mp hc with rfl | hc
      · decide
      · rcases List.mem_cons.mp hc with rfl | hc
        · cases minus <;> decide
        · exact hdigit c ((hs.exponent_digits _ he).2 c hc)

/-! ### Integers -/

/-- Digits are gathered whole as long as their number fits 64 bits. -/
theorem gather_eq (ds : List Char) (hd : ∀ c ∈ ds, Natural.isDigit c = true) (m : Nat)
    (h : Nat.ofDigitChars 10 ds m < 0x10000000000000000) :
    gather m (ds.map digitValue) = (Nat.ofDigitChars 10 ds m, ds.length) := by
  induction ds generalizing m with
  | nil => rfl
  | cons c ds ih =>
    have hstep : Nat.ofDigitChars 10 (c :: ds) m = Nat.ofDigitChars 10 ds (m * 10 + digitValue c) := by
      rw [Nat.ofDigitChars_cons, Nat.mul_comm 10 m]
      rfl
    rw [hstep] at h ⊢
    have hle : m * 10 + digitValue c ≤ Nat.ofDigitChars 10 ds (m * 10 + digitValue c) := by
      rw [Nat.ofDigitChars_eq_ofDigitChars_zero]
      exact Nat.le_add_right_of_le (Nat.le_mul_of_pos_left _ (Nat.pow_pos (by decide)))
    rw [List.map_cons, gather, if_pos (by omega), ih (fun d hd' => hd d (List.mem_cons_of_mem _ hd')) _ h]
    rfl

def Spelling.ofInt (n : Int) : Spelling := ⟨n < 0, digitsOf n.natAbs, none, none⟩

theorem Spelling.proper_ofInt (n : Int) : (Spelling.ofInt n).Proper := by
  refine ⟨digitsOf_digits _, digitsOf_front _, ?_, ?_⟩
  · intro ds hds
    cases hds
  · intro e he
    cases he

theorem Spelling.text_ofInt (n : Int) : (Number.int n).text = String.ofList (Spelling.ofInt n).text := by
  by_cases h : n < 0 <;> simp [Number.text, Spelling.ofInt, Spelling.text, fractionText, exponentText, h]

/-- A whole number without a point and an exponent. -/
theorem value?_whole (negative : Bool) {n : Nat} (h : n < 0x10000000000000000) :
    value? ⟨negative, (digitsOf n).map digitValue, none, none⟩ = ofWhole? negative n := by
  have hn : Nat.ofDigitChars 10 (digitsOf n) 0 = n := Nat.ofDigitChars_toDigits (by decide) (by decide)
  have hg : gather 0 ((digitsOf n).map digitValue) = (n, (digitsOf n).length) := by
    rw [gather_eq _ (digitsOf_digits n) 0 (by rwa [hn]), hn]
  rw [value?]
  simp only [hg, List.length_map, Nat.sub_self, Option.isNone_none, and_self, if_true]

end Numeral

/-! ### Numbers -/

namespace Number

open Floating Numeral

/-- Every number is written as a proper numeral. -/
theorem exists_spelling (n : Number) : ∃ s : Spelling, s.Proper ∧ n.text = String.ofList s.text := by
  cases n with
  | int n =>
    exact ⟨Spelling.ofInt n, Spelling.proper_ofInt n, Spelling.text_ofInt n⟩
  | real x =>
    obtain ⟨s, hs, hpos, htext⟩ := write_unsigned (realLayout binary64) (shortest_ne_zero binary64 x)
    refine ⟨{ s with negative := x.negative },
      ⟨hs.whole_digits, hs.whole_front, hs.fraction_digits, hs.exponent_digits⟩, ?_⟩
    rw [Number.text, realText, Layout.writeBinary, ← htext]
    cases hx : x.negative <;> simp [Spelling.text, Spelling.fractionText, Spelling.exponentText, hpos]

def again (n : Number) : Option Number :=
  (Numeral.scan? (Bytes.ofString n.text)).bind fun (numeral, _) => numeral.value?

/-- The text of a number is one numeral, in front of whatever cannot belong to it. -/
theorem scan?_text (n : Number) : ∃ numeral : Numeral, numeral.value? = n.again ∧
    ∀ rest, Ends rest → Numeral.scan? (Bytes.ofString n.text ++ rest) = some (numeral, rest) := by
  obtain ⟨s, hs, htext⟩ := exists_spelling n
  have hbytes : Bytes.ofString n.text = Bytes.ofPlain s.text := by
    rw [htext, Bytes.ofString_plain hs.plain]
  refine ⟨s.numeral, ?_, ?_⟩
  · have hscan := @scan?_spelling s hs [] (fun b hb => by cases hb)
    rw [List.append_nil] at hscan
    rw [again, hbytes, hscan]
    rfl
  · intro rest hr
    rw [hbytes]
    exact scan?_spelling hs hr

/-- An integer of 64 bits is read back. -/
theorem again_int {n : Int} (h : Payload.fits n = true) : again (.int n) = some (.int n) := by
  simp only [Payload.fits, Bool.and_eq_true, decide_eq_true_eq] at h
  have hscan := @scan?_spelling _ (Spelling.proper_ofInt n) [] (fun b hb => by cases hb)
  rw [List.append_nil] at hscan
  rw [again, Spelling.text_ofInt, Bytes.ofString_plain (Spelling.proper_ofInt n).plain, hscan]
  show value? ⟨n < 0, (digitsOf n.natAbs).map digitValue, none, none⟩ = _
  rw [value?_whole _ (by omega), ofWhole?]
  by_cases hn : n < 0
  · rw [decide_eq_true hn, if_pos rfl, if_pos (by omega), show -(n.natAbs : Int) = n by omega]
  · rw [decide_eq_false hn, if_neg Bool.false_ne_true, show (n.natAbs : Int) = n by omega]

end Number

end SessionVault
