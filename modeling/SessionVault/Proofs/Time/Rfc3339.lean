import SessionVault.Proofs.Text.Digits
import SessionVault.Proofs.Time.Calendar

/-!
# Instants read back from their text

`Instant.rfc3339` writes one spelling of many that `Rfc3339.read` takes.  Each part of it is followed by a character
that ends the part, so the parts are read back one after the other, and `read_rfc3339` puts them together: every
instant, leap seconds among them, is the instant that its text spells.
-/

namespace SessionVault.Rfc3339

open Natural (isDigit ofDigits)

/-! ### Numbers -/

/-- A number is read up to the end of its digits, which is set by a bound or by what follows. -/
theorem number_append {most : Option Nat} {ds rest : List Char} (hne : ds ≠ [])
    (hd : ∀ c ∈ ds, isDigit c = true)
    (hend : most = some ds.length ∨ (∀ n ∈ most, ds.length ≤ n) ∧ ∀ c ∈ rest.head?, isDigit c = false)
    (hlt : ofDigits ds < 0x8000000000000000) : number most (ds ++ rest) = .ok (ofDigits ds, rest) := by
  have hempty : ∀ cs : List Char, ds ++ cs = [] → False := fun cs h => hne (List.append_eq_nil_iff.mp h).1
  have hread : ∀ w, w = ds → (if (ds ++ rest).isEmpty then Except.error TimeFault.tooShort
      else if w.isEmpty then .error .invalid
      else if 0x8000000000000000 ≤ ofDigits w then .error .outOfRange
      else .ok (ofDigits w, (ds ++ rest).drop w.length)) = .ok (ofDigits ds, rest) := by
    rintro w rfl
    rw [if_neg fun h => hempty rest (List.isEmpty_iff.mp h), if_neg fun h => hne (List.isEmpty_iff.mp h),
      if_neg (Nat.not_le.mpr hlt), List.drop_left]
  have hall : ds.takeWhile isDigit = ds := by
    have h := Natural.takeWhile_digits hd (show ∀ c ∈ ([] : List Char).head?, isDigit c = false by simp)
    rwa [List.append_nil] at h
  cases most with
  | none =>
    rcases hend with h | ⟨-, hrest⟩
    · cases h
    · exact hread _ (Natural.takeWhile_digits hd hrest)
  | some n =>
    refine hread (((ds ++ rest).take n).takeWhile isDigit) ?_
    rcases hend with h | ⟨hmost, hrest⟩
    · cases h
      rw [List.take_left, hall]
    · rw [List.take_append, List.take_of_length_le (hmost n rfl)]
      refine Natural.takeWhile_digits hd fun c hc => hrest c ?_
      rw [List.head?_take] at hc
      split at hc
      · cases hc
      · exact hc

theorem number_padded {w n : Nat} {rest : List Char} (hw : 0 < w) (hn : n < 10 ^ w)
    (hlt : n < 0x8000000000000000) : number (some w) (Time.padded w n ++ rest) = .ok (n, rest) := by
  have h := @number_append (some w) (Time.padded w n) rest (Natural.padded_ne_nil w n)
    (fun c hc => Natural.isDigit_of_mem_padded hc) (Or.inl (by rw [Time.length_padded hw hn]))
    (by rwa [Natural.ofDigits_padded])
  rwa [Natural.ofDigits_padded] at h

/-! ### Parts -/

/-- White space is no digit, so nothing is trimmed off a number. -/
theorem trim_digits {ds rest : List Char} (hne : ds ≠ []) (hd : ∀ c ∈ ds, isDigit c = true) :
    trim (ds ++ rest) = ds ++ rest := by
  cases ds with
  | nil => exact absurd rfl hne
  | cons c ds =>
    have hc : isSpace c = false := by
      have h := hd c List.mem_cons_self
      simp only [isDigit, Bool.and_eq_true, decide_eq_true_eq, Char.le_def, UInt32.le_iff_toNat_le] at h
      have hlow : 48 ≤ c.toNat := h.1
      have hhigh : c.toNat ≤ 57 := h.2
      simp only [isSpace, Bool.or_eq_false_iff, Bool.and_eq_false_iff, decide_eq_false_iff_not, beq_eq_false_iff_ne]
      omega
    rw [List.cons_append, trim, List.dropWhile_cons, hc]
    rfl

theorem trim_padded (w n : Nat) (rest : List Char) : trim (Time.padded w n ++ rest) = Time.padded w n ++ rest :=
  trim_digits (Natural.padded_ne_nil w n) fun _ hc => Natural.isDigit_of_mem_padded hc

theorem field_padded {least greatest n : Nat} {rest : List Char} (hl : least ≤ n) (hg : n ≤ greatest)
    (hn : n < 100) : field least greatest (Time.padded 2 n ++ rest) = .ok (n, rest) := by
  have hnum : number (some 2) (Time.padded 2 n ++ rest) = .ok (n, rest) :=
    number_padded (by decide) hn (by omega)
  simp only [field, trim_padded, hnum]
  show (if least ≤ n ∧ n ≤ greatest then Except.ok (n, rest) else .error TimeFault.outOfRange) = _
  rw [if_pos ⟨hl, hg⟩]

/-- A year, whether it has a sign or not, ends before the hyphen that follows it. -/
theorem year_yearText {y : Int} {rest : List Char} (hge : -2147483648 ≤ y) (hle : y ≤ 2147483647) :
    year (Time.yearText y ++ '-' :: rest) = .ok (y, '-' :: rest) := by
  have hrange : ∀ z : Int, z = y → (if -2147483648 ≤ z ∧ z ≤ 2147483647 then Except.ok (z, '-' :: rest)
      else .error TimeFault.outOfRange) = .ok (y, '-' :: rest) := by
    rintro z rfl
    exact if_pos ⟨hge, hle⟩
  have hsigned : ∀ n : Nat, n < 0x8000000000000000 →
      number none (Time.padded 4 n ++ '-' :: rest) = .ok (n, '-' :: rest) := by
    intro n hn
    have h := @number_append none (Time.padded 4 n) ('-' :: rest) (Natural.padded_ne_nil 4 n)
      (fun c hc => Natural.isDigit_of_mem_padded hc)
      (Or.inr ⟨by simp, fun c hc => by cases hc; rfl⟩) (by rwa [Natural.ofDigits_padded])
    rwa [Natural.ofDigits_padded] at h
  by_cases hshort : 0 ≤ y ∧ y ≤ 9999
  · -- Four digits: neither sign stands in front, so the bounded number is read.
    obtain ⟨n, rfl⟩ := Int.eq_ofNat_of_zero_le hshort.1
    have hn : n < 10 ^ 4 := by omega
    have hnum : number (some 4) (Time.padded 4 n ++ '-' :: rest) = .ok (n, '-' :: rest) :=
      number_padded (by decide) hn (by omega)
    rw [Time.yearText, if_pos hshort, Int.toNat_natCast]
    obtain ⟨c, ds, hds⟩ : ∃ c ds, Time.padded 4 n = c :: ds := by
      cases h : Time.padded 4 n with
      | nil => exact absurd h (Natural.padded_ne_nil 4 n)
      | cons c ds => exact ⟨c, ds, rfl⟩
    have hc : isDigit c = true :=
      Natural.isDigit_of_mem_padded (w := 4) (n := n) (by rw [hds]; exact List.mem_cons_self)
    have htrim := trim_padded 4 n ('-' :: rest)
    simp only [year, htrim]
    rw [hds] at hnum ⊢
    have hminus : c ≠ '-' := by rintro rfl; exact absurd hc (by decide)
    have hplus : c ≠ '+' := by rintro rfl; exact absurd hc (by decide)
    simp only [List.cons_append] at hnum ⊢
    split
    · rename_i h
      exact absurd (List.cons.inj h).1 hminus
    · rename_i h
      exact absurd (List.cons.inj h).1 hplus
    · rw [hnum]
      exact hrange n rfl
  · -- A sign stands in front, so digits are read up to the hyphen.
    rw [Time.yearText, if_neg hshort]
    by_cases hpos : 0 ≤ y
    · have htrim : trim ('+' :: (Time.padded 4 y.natAbs ++ '-' :: rest)) =
        '+' :: (Time.padded 4 y.natAbs ++ '-' :: rest) :=
        rfl
      rw [if_pos hpos, List.cons_append]
      simp only [year, htrim]
      rw [hsigned _ (by omega)]
      exact hrange (y.natAbs : Int) (by omega)
    · have htrim : trim ('-' :: (Time.padded 4 y.natAbs ++ '-' :: rest)) =
        '-' :: (Time.padded 4 y.natAbs ++ '-' :: rest) :=
        rfl
      rw [if_neg hpos, List.cons_append]
      simp only [year, htrim]
      rw [hsigned _ (by omega)]
      exact hrange (-(y.natAbs : Int)) (by omega)

/-- A group of fraction digits, as many as it has, is the fraction scaled up to nanoseconds. -/
theorem fraction_group {w n scale : Nat} {rest : List Char} (hw : 0 < w) (hw' : w ≤ 9) (hn : n < 10 ^ w)
    (hscale : 10 ^ (9 - w) = scale) (hr : ∀ c ∈ rest.head?, isDigit c = false) :
    fraction ('.' :: (Time.padded w n ++ rest)) = .ok (n * scale, rest) := by
  have hlt : n < 0x8000000000000000 := by
    have : 10 ^ w ≤ 10 ^ 9 := Nat.pow_le_pow_right (by decide) hw'
    omega
  have hnum := @number_append (some 9) (Time.padded w n) rest (Natural.padded_ne_nil w n)
    (fun c hc => Natural.isDigit_of_mem_padded hc)
    (Or.inr ⟨by intro m hm; cases hm; rwa [Time.length_padded hw hn], hr⟩) (by rwa [Natural.ofDigits_padded])
  rw [Natural.ofDigits_padded] at hnum
  have hdrop : ([] ++ rest).dropWhile isDigit = rest := Natural.dropWhile_digits (by simp) hr
  rw [List.nil_append] at hdrop
  have hlen : 9 - ((Time.padded w n ++ rest).length - rest.length) = 9 - w := by
    rw [List.length_append, Time.length_padded hw hn]
    omega
  simp only [fraction, hnum]
  show Except.ok (n * Nat.pow 10 (9 - ((Time.padded w n ++ rest).length - rest.length)), rest.dropWhile isDigit) = _
  rw [hdrop, hlen, ← hscale]
  rfl

theorem fraction_fractionText {n : Nat} {c : Char} {rest : List Char} (hn : n < 1000000000)
    (hc : isDigit c = false) (hdot : c ≠ '.') :
    fraction (Time.fractionText n ++ c :: rest) = .ok (n, c :: rest) := by
  have hr : ∀ d ∈ (c :: rest).head?, isDigit d = false := by
    intro d hd
    cases hd
    exact hc
  rw [Time.fractionText]
  split
  · rename_i h0
    rw [List.nil_append, fraction, h0]
    intro rest' h
    exact hdot (List.cons.inj h).1
  · split
    · rename_i h
      rw [List.cons_append, fraction_group (by decide) (by decide) (by omega) rfl hr]
      show Except.ok (n / 1000000 * 1000000, c :: rest) = _
      rw [Nat.div_mul_cancel (Nat.dvd_of_mod_eq_zero h)]
    · split
      · rename_i h
        rw [List.cons_append, fraction_group (by decide) (by decide) (by omega) rfl hr]
        show Except.ok (n / 1000 * 1000, c :: rest) = _
        rw [Nat.div_mul_cancel (Nat.dvd_of_mod_eq_zero h)]
      · rw [List.cons_append, fraction_group (by decide) (by decide) (by omega) rfl hr]
        show Except.ok (n * 1, c :: rest) = _
        rw [Nat.mul_one]

/-! ### Whole texts -/

theorem trim_cons {c : Char} {rest : List Char} (h : isSpace c = false) : trim (c :: rest) = c :: rest := by
  rw [trim, List.dropWhile_cons, h]
  rfl

theorem expect_self (c : Char) (rest : List Char) : expect c (c :: rest) = .ok rest := if_pos rfl

theorem monthLength_le (y : Int) (m : Nat) : Time.monthLength y m ≤ 31 := by
  rw [Time.monthLength]
  split
  · split <;> decide
  · split <;> decide

/-- The parts of the text of an instant make the instant again. -/
theorem ofParts?_parts (t : Instant) :
    Instant.ofParts?
      ((t.seconds / 86400) * 86400 + (t.secondOfDay.toNat / 3600 * 3600 + t.secondOfDay.toNat / 60 % 60 * 60 +
        t.secondOfDay.toNat % 60 : Nat) - 0)
      t.nanos = some t := by
  have hsum : (t.seconds / 86400) * 86400 + (t.secondOfDay.toNat / 3600 * 3600 +
      t.secondOfDay.toNat / 60 % 60 * 60 + t.secondOfDay.toNat % 60 : Nat) - 0 = t.seconds := by
    rw [Instant.secondOfDay]
    omega
  rw [hsum, Instant.ofParts?, dif_pos ⟨t.seconds_ge, t.seconds_le, t.nanos_lt, t.leap_last⟩]

/-- The second of the minute and the nanoseconds, as they are read: a second of 60 is the leap second. -/
theorem leap_parts (t : Instant) :
    (if t.secondOfDay.toNat % 60 + (if t.isLeap then 1 else 0) = 60 then (59, t.nanos % 1000000000 + 1000000000)
      else (t.secondOfDay.toNat % 60 + (if t.isLeap then 1 else 0), t.nanos % 1000000000)) =
      (t.secondOfDay.toNat % 60, t.nanos) := by
  have hlt := t.nanos_lt
  have hlast := t.leap_last
  have hsod : t.secondOfDay.toNat % 60 = (t.seconds % 60).toNat := by
    rw [Instant.secondOfDay]
    omega
  rw [hsod]
  by_cases hleap : 1000000000 ≤ t.nanos
  · have h59 := hlast hleap
    rw [show t.isLeap = true from decide_eq_true hleap, if_pos rfl, if_pos (by omega)]
    exact Prod.ext (by show 59 = _; omega) (by show t.nanos % 1000000000 + 1000000000 = _; omega)
  · rw [show t.isLeap = false from decide_eq_false hleap, if_neg Bool.false_ne_true, if_neg (by omega)]
    exact Prod.ext rfl (by show t.nanos % 1000000000 = _; omega)

/-- Every instant is read back from its text. -/
theorem read_rfc3339 (t : Instant) : read t.rfc3339 = .ok t := by
  have hge := t.seconds_ge
  have hle := t.seconds_le
  have hday := Time.dayNumber_ofDayNumber (t.seconds / 86400)
  have hvalid := Time.isValid_ofDayNumber (t.seconds / 86400)
  have hyear : -262143 ≤ (Time.dateOf t).year ∧ (Time.dateOf t).year ≤ 262142 :=
    Time.year_ofDayNumber (by omega) (by omega)
  have hleap := leap_parts t
  have hparts := ofParts?_parts t
  have hs : t.secondOfDay.toNat < 86400 := by
    rw [Instant.secondOfDay]
    omega
  have hsecond : t.secondOfDay.toNat % 60 + (if t.isLeap then 1 else 0) ≤ 60 := by
    split <;> omega
  have hmonth : 1 ≤ (Time.dateOf t).month ∧ (Time.dateOf t).month ≤ 12 := by
    simp only [Time.Date.isValid, Bool.and_eq_true, decide_eq_true_eq] at hvalid
    exact ⟨hvalid.1.1.1, hvalid.1.1.2⟩
  have hday' : 1 ≤ (Time.dateOf t).day ∧ (Time.dateOf t).day ≤ 31 := by
    simp only [Time.Date.isValid, Bool.and_eq_true, decide_eq_true_eq] at hvalid
    exact ⟨hvalid.1.2, hvalid.2.trans (monthLength_le _ _)⟩
  have hlist : t.rfc3339.toList = Time.yearText (Time.dateOf t).year ++ '-' ::
      (Time.padded 2 (Time.dateOf t).month ++ '-' :: (Time.padded 2 (Time.dateOf t).day ++ 'T' ::
      (Time.padded 2 (t.secondOfDay.toNat / 3600) ++ ':' :: (Time.padded 2 (t.secondOfDay.toNat / 60 % 60) ++ ':' ::
      (Time.padded 2 (t.secondOfDay.toNat % 60 + if t.isLeap then 1 else 0) ++
      (Time.fractionText (t.nanos % 1000000000) ++ ['Z'])))))) := by
    simp only [Instant.rfc3339, String.toList_ofList, Time.rfc3339, Time.clockText, List.append_assoc, List.cons_append]
  have hbind : ∀ {α β : Type} (a : α) (f : α → Except TimeFault β), (Except.ok a >>= f) = f a := fun _ _ => rfl
  -- What is read at each place, in front of any rest.
  have hm : ∀ rest, field 1 12 (Time.padded 2 (Time.dateOf t).month ++ rest) = .ok ((Time.dateOf t).month, rest) :=
    fun rest => field_padded hmonth.1 hmonth.2 (by omega)
  have hd : ∀ rest, field 1 31 (Time.padded 2 (Time.dateOf t).day ++ rest) = .ok ((Time.dateOf t).day, rest) :=
    fun rest => field_padded hday'.1 hday'.2 (by omega)
  have hhour : ∀ rest, field 0 23 (Time.padded 2 (t.secondOfDay.toNat / 3600) ++ rest) =
      .ok (t.secondOfDay.toNat / 3600, rest) := fun rest => field_padded (Nat.zero_le _) (by omega) (by omega)
  have hminute : ∀ rest, field 0 59 (Time.padded 2 (t.secondOfDay.toNat / 60 % 60) ++ rest) =
      .ok (t.secondOfDay.toNat / 60 % 60, rest) := fun rest => field_padded (Nat.zero_le _) (by omega) (by omega)
  have hsec : ∀ rest, field 0 60 (Time.padded 2 (t.secondOfDay.toNat % 60 + if t.isLeap then 1 else 0) ++ rest) =
      .ok (t.secondOfDay.toNat % 60 + (if t.isLeap then 1 else 0), rest) :=
    fun rest => field_padded (Nat.zero_le _) hsecond (by omega)
  have hfrac : fraction (Time.fractionText (t.nanos % 1000000000) ++ ['Z']) = .ok (t.nanos % 1000000000, ['Z']) :=
    fraction_fractionText (Nat.mod_lt _ (by decide)) rfl (by decide)
  have hzone : zone (trim ['Z']) = .ok (0, []) := rfl
  have hcovered : isCovered ⟨(Time.dateOf t).year, (Time.dateOf t).month, (Time.dateOf t).day⟩ = true := by
    show (Time.Date.isValid (Time.dateOf t) && _ && _) = true
    rw [show Time.Date.isValid (Time.dateOf t) = true from hvalid, decide_eq_true hyear.1, decide_eq_true hyear.2]
    rfl
  have hnumber : (⟨(Time.dateOf t).year, (Time.dateOf t).month, (Time.dateOf t).day⟩ : Time.Date).dayNumber =
      t.seconds / 86400 := hday
  simp only [read, hlist, year_yearText (show -2147483648 ≤ (Time.dateOf t).year by omega)
    (show (Time.dateOf t).year ≤ 2147483647 by omega), hbind, trim_cons (c := '-') rfl, trim_cons (c := ':') rfl,
    expect_self, hm, hd, hhour, hminute, hsec, hfrac, hzone, hcovered, hnumber, hleap, hparts,
    true_or, if_true]
  rfl

end SessionVault.Rfc3339
