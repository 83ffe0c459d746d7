import Mathlib.Tactic.Ring
import SessionVault.Time.Rfc3339

/-!
# Decimal digits

What `Nat.toDigits` writes is read back by the two functions that read digits, with zeros in front
(`Time.padded`) or without:

* `Natural.ofDigits_toDigits`, `Natural.ofDigits_padded` — the number that the digits spell;
* `Time.length_padded` — the width of a padded number that has no more digits than that;
* `Natural.takeWhile_digits`, `Natural.dropWhile_digits` — where digits end in a longer text.
-/

namespace SessionVault

namespace Natural

/-! ### The digits of a number -/

theorem isDigit_of_mem_toDigits {n : Nat} {c : Char} (h : c ∈ Nat.toDigits 10 n) : isDigit c = true := by
  rw [isDigit_eq]
  exact Nat.isDigit_of_mem_toDigits (by decide) (by decide) h

/-- Digits read one after the other are the digits of one number. -/
theorem ofDigits_eq (ds : List Char) : ofDigits ds = Nat.ofDigitChars 10 ds 0 := by
  rw [Nat.ofDigitChars_eq_foldl, ofDigits]
  congr 1
  funext n c
  rw [Nat.mul_comm]

theorem ofDigits_toDigits (n : Nat) : ofDigits (Nat.toDigits 10 n) = n := by
  rw [ofDigits_eq]
  exact Nat.ofDigitChars_toDigits (by decide) (by decide)

/-- No zero stands in front of a number other than zero. -/
theorem head?_toDigits {n : Nat} (h : n ≠ 0) : (Nat.toDigits 10 n).head? ≠ some '0' := by
  induction n using Nat.strongRecOn with
  | ind n ih =>
    by_cases hlt : n < 10
    · have hall : ∀ m < 10, m ≠ 0 → (Nat.toDigits 10 m).head? ≠ some '0' := by decide
      exact hall n hlt h
    · have hfront := ih (n / 10) (by omega) (by omega)
      rw [Nat.toDigits_of_base_le (by decide) (Nat.not_lt.mp hlt), List.head?_append]
      cases hd : (Nat.toDigits 10 (n / 10)).head? with
      | none => exact absurd (List.head?_eq_none_iff.mp hd) Nat.toDigits_ne_nil
      | some c =>
        rw [hd] at hfront
        exact hfront

/-! ### Zeros in front -/

theorem isDigit_of_mem_padded {w n : Nat} {c : Char} (h : c ∈ Time.padded w n) : isDigit c = true := by
  rcases List.mem_append.mp h with h | h
  · rw [List.eq_of_mem_replicate h]
    rfl
  · exact isDigit_of_mem_toDigits h

/-- Zeros in front of a number do not change it. -/
theorem ofDigits_padded (w n : Nat) : ofDigits (Time.padded w n) = n := by
  rw [ofDigits_eq, Time.padded, Nat.ofDigitChars_append, Nat.ofDigitChars_replicate_zero, Nat.mul_zero]
  exact Nat.ofDigitChars_toDigits (by decide) (by decide)

theorem padded_ne_nil (w n : Nat) : Time.padded w n ≠ [] := by
  intro h
  exact Nat.toDigits_ne_nil (List.append_eq_nil_iff.mp h).2

/-! ### Digits in front of a text -/

variable {ds rest : List Char}

theorem takeWhile_digits (hd : ∀ c ∈ ds, isDigit c = true) (hr : ∀ c ∈ rest.head?, isDigit c = false) :
    (ds ++ rest).takeWhile isDigit = ds := by
  rw [List.takeWhile_append_of_pos hd]
  cases rest with
  | nil => exact List.append_nil ds
  | cons c rest =>
    have hc : isDigit c = false := hr c rfl
    rw [List.takeWhile_cons, hc]
    exact List.append_nil ds

theorem dropWhile_digits (hd : ∀ c ∈ ds, isDigit c = true) (hr : ∀ c ∈ rest.head?, isDigit c = false) :
    (ds ++ rest).dropWhile isDigit = rest := by
  rw [List.dropWhile_append_of_pos hd]
  cases rest with
  | nil => rfl
  | cons c rest =>
    have hc : isDigit c = false := hr c rfl
    rw [List.dropWhile_cons, hc]
    rfl

end Natural

namespace Time

theorem length_padded {w n : Nat} (hw : 0 < w) (h : n < 10 ^ w) : (padded w n).length = w := by
  have hl : (Nat.toDigits 10 n).length ≤ w := (Nat.length_toDigits_le_iff (by decide) hw).mpr h
  rw [padded, List.length_append, List.length_replicate]
  omega

end Time

end SessionVault
