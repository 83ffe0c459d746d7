import Mathlib.Tactic.Ring
import SessionVault.Time.Instant

/-!
# Instants in order, and exact arithmetic between them

`Instant.before` orders instants by their seconds first.  Away from leap seconds (`Instant.Plain`) an instant is
its number of nanoseconds, and sums and differences are those of integers:

* `plain_add`, `total_add` — a sum is plain, and is cut off at the last instant only, whichever of
  `addable?_eq_none_iff` and `after?_eq_none_iff` is met;
* `remaining_eq_some_iff` — what is left until an instant is the difference of the two, if it is positive;
* `add_remaining` — the instant at which the time left is over is the instant it was measured to.

A difference notices a leap second by the times of day of its two instants.  It misses the one at the end of a day from
the second behind it (`Instant.Overlaps`), and only there its sign may differ from the order of the two
(`Instant.remaining_eq_none_iff`).
-/

namespace SessionVault.Instant

/-! ### Order -/

theorem before_iff {a b : Instant} :
    a.before b = true ↔ a.seconds < b.seconds ∨ a.seconds = b.seconds ∧ a.nanos < b.nanos := by
  simp only [before, Bool.or_eq_true, Bool.and_eq_true, decide_eq_true_eq, beq_iff_eq]

theorem not_before_self (a : Instant) : a.before a = false := by
  rw [Bool.eq_false_iff, Ne, before_iff]
  omega

/-- An instant that is not later than the clock lies before whatever the clock lies before. -/
theorem before_of_not_before_of_before {a b c : Instant} (h : b.before a = false) (h' : b.before c = true) :
    a.before c = true := by
  rw [Bool.eq_false_iff, Ne, before_iff] at h
  rw [before_iff] at h' ⊢
  omega

theorem not_before_trans {a b c : Instant} (h : b.before a = false) (h' : c.before b = false) :
    c.before a = false := by
  rw [Bool.eq_false_iff, Ne, before_iff] at h h' ⊢
  omega

/-! ### Instants away from leap seconds -/

/-- An instant that lies in no leap second. -/
def Plain (t : Instant) : Prop := t.nanos < 1000000000

instance (t : Instant) : Decidable t.Plain := inferInstanceAs (Decidable (t.nanos < 1000000000))

/-- The nanoseconds from the start of 1970 to a plain instant. -/
def total (t : Instant) : Int := t.seconds * 1000000000 + t.nanos

theorem isLeap_of_plain {t : Instant} (h : t.Plain) : t.isLeap = false := by
  rw [isLeap, decide_eq_false_iff_not]
  exact Nat.not_le.mpr h

theorem plain_latest : latest.Plain := by decide

theorem plain_epoch : epoch.Plain := by decide

theorem eq_of_total {a b : Instant} (ha : a.Plain) (hb : b.Plain) (h : a.total = b.total) : a = b := by
  obtain ⟨as, an, _, _, _, _⟩ := a
  obtain ⟨bs, bn, _, _, _, _⟩ := b
  simp only [Plain, total] at ha hb h
  have hs : as = bs := by omega
  have hn : an = bn := by omega
  subst hs hn
  rfl

theorem before_iff_total {a b : Instant} (ha : a.Plain) (hb : b.Plain) :
    a.before b = true ↔ a.total < b.total := by
  rw [before_iff]
  simp only [Plain, total] at ha hb ⊢
  omega

theorem total_le_latest {t : Instant} (h : t.Plain) : t.total ≤ latest.total := by
  have hs := t.seconds_le
  have hl : latest.total = 8210266876799 * 1000000000 + 999999999 := rfl
  simp only [Plain] at h
  rw [hl, total]
  omega

/-! ### Sums -/

/-- A second and the nanoseconds into it make an instant up to the last one. -/
theorem ofParts?_getD {s : Int} {n : Nat} (hs : -8334601228800 ≤ s) (hn : n < 1000000000) :
    ((ofParts? s n).getD latest).Plain ∧
      ((ofParts? s n).getD latest).total = min (s * 1000000000 + n) latest.total := by
  have hl : latest.total = 8210266876799 * 1000000000 + 999999999 := rfl
  by_cases hle : s ≤ 8210266876799
  · have h : -8334601228800 ≤ s ∧ s ≤ 8210266876799 ∧ n < 2000000000 ∧ (1000000000 ≤ n → s % 60 = 59) :=
      ⟨hs, hle, by omega, fun h => absurd h (by omega)⟩
    rw [ofParts?, dif_pos h, Option.getD_some]
    refine ⟨hn, ?_⟩
    show s * 1000000000 + (n : Int) = _
    rw [hl]
    omega
  · have h : ¬(-8334601228800 ≤ s ∧ s ≤ 8210266876799 ∧ n < 2000000000 ∧ (1000000000 ≤ n → s % 60 = 59)) :=
      fun h => hle h.2.1
    rw [ofParts?, dif_neg h, Option.getD_none]
    refine ⟨plain_latest, ?_⟩
    rw [hl]
    omega

/-- A plain instant a span later, by its seconds and nanoseconds. -/
theorem after?_eq {t : Instant} (h : t.Plain) (d : Duration) :
    t.after? d = ofParts? (t.seconds + (d.nanos / 1000000000 : Nat) +
      ((t.nanos + d.nanos % 1000000000) / 1000000000 : Nat)) ((t.nanos + d.nanos % 1000000000) % 1000000000) := by
  rw [after?, if_neg (by rw [isLeap_of_plain h]; simp), if_neg (by rw [isLeap_of_plain h]; simp)]
  rfl

/-- What is a span later is cut off at the last instant. -/
theorem after?_getD {t : Instant} (h : t.Plain) (d : Duration) :
    ((t.after? d).getD latest).Plain ∧
      ((t.after? d).getD latest).total = min (t.total + d.nanos) latest.total := by
  have hs := t.seconds_ge
  have hparts := ofParts?_getD (s := t.seconds + (d.nanos / 1000000000 : Nat) +
    ((t.nanos + d.nanos % 1000000000) / 1000000000 : Nat))
    (n := (t.nanos + d.nanos % 1000000000) % 1000000000) (by omega) (Nat.mod_lt _ (by decide))
  rw [after?_eq h]
  refine ⟨hparts.1, hparts.2.trans ?_⟩
  congr 1
  rw [total]
  omega

/-- There is nothing a span later exactly if that is beyond the last instant. -/
theorem after?_eq_none_iff {t : Instant} (h : t.Plain) {d : Duration} :
    t.after? d = none ↔ latest.total < t.total + d.nanos := by
  have hs := t.seconds_ge
  have hl : latest.total = 8210266876799 * 1000000000 + 999999999 := rfl
  rw [after?_eq h, ofParts?, hl, total]
  split
  · simp only [reduceCtorEq, false_iff]
    omega
  · simp only [true_iff]
    omega

theorem addable?_eq_none_iff {d : Duration} :
    d.addable? = none ↔ 0x7FFFFFFFFFFFFFFF * 1000000 < d.nanos := by
  rw [Duration.addable?]
  split
  · next h =>
    simp only [reduceCtorEq, false_iff]
    exact Nat.not_lt.mpr h
  · next h =>
    simp only [true_iff]
    exact Nat.not_le.mp h

/-- The longest span that can be added leads beyond the last instant, from wherever it is added. -/
theorem latest_lt_add_longest (t : Instant) : latest.total < t.total + Duration.longestAddable.nanos := by
  have hs := t.seconds_ge
  have hl : latest.total = 8210266876799 * 1000000000 + 999999999 := rfl
  have hlongest : Duration.longestAddable.nanos = 0x7FFFFFFFFFFFFFFF * 1000000 := rfl
  rw [hl, hlongest, total]
  omega

/-- A span that is too long to be added leads to the last instant, as its sum does. -/
theorem add_spec {t : Instant} (h : t.Plain) (d : Duration) :
    (t.add d).Plain ∧ (t.add d).total = min (t.total + d.nanos) latest.total := by
  rw [add]
  cases hd : d.addable? with
  | some d' =>
    obtain rfl : d = d' := by
      rw [Duration.addable?] at hd
      split at hd
      · exact Option.some.inj hd
      · cases hd
    exact after?_getD h d
  | none =>
    have hlong := addable?_eq_none_iff.mp hd
    have hbeyond := latest_lt_add_longest t
    have hlongest : Duration.longestAddable.nanos = 0x7FFFFFFFFFFFFFFF * 1000000 := rfl
    refine ⟨(after?_getD h _).1, (after?_getD h _).2.trans ?_⟩
    rw [Option.getD_none]
    omega

theorem plain_add {t : Instant} (h : t.Plain) (d : Duration) : (t.add d).Plain := (add_spec h d).1

theorem total_add {t : Instant} (h : t.Plain) (d : Duration) :
    (t.add d).total = min (t.total + d.nanos) latest.total := (add_spec h d).2

/-- A sum is not earlier than what a span was added to. -/
theorem not_before_add {t : Instant} (h : t.Plain) (d : Duration) : (t.add d).before t = false := by
  rw [Bool.eq_false_iff, Ne, before_iff_total (plain_add h d) h, total_add h]
  have := total_le_latest h
  omega

/-! ### Differences -/

theorem since_eq {a b : Instant} (ha : a.Plain) (hb : b.Plain) : a.since b = a.total - b.total := by
  simp only [since, isLeap_of_plain ha, isLeap_of_plain hb, Bool.false_eq_true, if_false, ite_self,
    Duration.perSecond, total]
  push_cast
  ring

theorem remaining_eq_some_iff {t now : Instant} (ht : t.Plain) (hn : now.Plain) {d : Duration} :
    t.remaining now = some d ↔ now.total < t.total ∧ (d.nanos : Int) = t.total - now.total := by
  obtain ⟨n⟩ := d
  simp only [remaining, since_eq ht hn]
  split
  · simp only [Option.some.injEq, Duration.mk.injEq]
    omega
  · simp only [reduceCtorEq, false_iff]
    omega

/-- The time left is over at the instant that it was measured to. -/
theorem add_remaining {t now : Instant} (ht : t.Plain) (hn : now.Plain) {d : Duration}
    (h : t.remaining now = some d) : now.add d = t := by
  obtain ⟨_, hd⟩ := (remaining_eq_some_iff ht hn).mp h
  refine eq_of_total (plain_add hn d) ht ?_
  rw [total_add hn, hd]
  have := total_le_latest ht
  omega

/-! ### Differences across a leap second -/

theorem isLeap_iff {t : Instant} : t.isLeap = true ↔ 1000000000 ≤ t.nanos := decide_eq_true_iff

/-- The one lies in a leap second at the end of a day, the other in the second behind it. -/
structure Overlaps (a b : Instant) : Prop where
  isLeap : a.isLeap = true
  next : b.seconds = a.seconds + 1
  midnight : b.secondOfDay = 0

theorem Overlaps.before {a b : Instant} (h : a.Overlaps b) : a.before b = true :=
  before_iff.mpr (Or.inl (by rw [h.next]; omega))

theorem Overlaps.not_before {a b : Instant} (h : a.Overlaps b) : b.before a = false := by
  rw [Bool.eq_false_iff, Ne, before_iff, h.next]
  omega

/-- The first second of a day is not the last of a minute. -/
theorem Overlaps.isLeap_next {a b : Instant} (h : a.Overlaps b) : b.isLeap = false := by
  have hmidnight := h.midnight
  have hlast := b.leap_last
  rw [secondOfDay] at hmidnight
  rw [Bool.eq_false_iff, Ne, isLeap_iff]
  omega

theorem Overlaps.secondOfDay_lt {a b : Instant} (h : a.Overlaps b) : b.secondOfDay < a.secondOfDay := by
  have hlast := a.leap_last (isLeap_iff.mp h.isLeap)
  rw [h.midnight, secondOfDay]
  omega

/-- A difference by its seconds, with the leap second that it crosses. -/
theorem since_eq_crossed (a b : Instant) :
    a.since b = (a.seconds - b.seconds + (if b.secondOfDay < a.secondOfDay then if b.isLeap then 1 else 0
      else if a.secondOfDay < b.secondOfDay then if a.isLeap then -1 else 0 else 0)) * 1000000000 +
      ((a.nanos : Int) - b.nanos) := rfl

/-- No two instants lie 63 bits of seconds apart. -/
theorem since_le (t now : Instant) : t.since now ≤ 16544868105602 * 1000000000 := by
  have hseconds := t.seconds_le
  have hseconds' := now.seconds_ge
  have hnanos := t.nanos_lt
  rw [since_eq_crossed]
  split
  · split <;> omega
  · split
    · split <;> omega
    · omega

/-- Less than a second is left until an instant that the clock has reached, also where a leap second is missed. -/
theorem since_lt_of_not_before {t now : Instant} (h : ¬now.before t = true) : t.since now < 1000000000 := by
  have hnanos := t.nanos_lt
  have hlast := t.leap_last
  have hlast' := now.leap_last
  rw [before_iff] at h
  rw [since_eq_crossed]
  simp only [isLeap_iff, secondOfDay]
  split
  · split <;> omega
  · split
    · split <;> omega
    · omega

/-- Seen from the second behind it, a leap second at the end of a day lies in that same second. -/
theorem Overlaps.since {a b : Instant} (h : a.Overlaps b) : a.since b = (a.nanos : Int) - 1000000000 - b.nanos := by
  rw [since_eq_crossed, if_pos h.secondOfDay_lt, h.isLeap_next, if_neg Bool.false_ne_true, h.next]
  omega

theorem Overlaps.since_swap {a b : Instant} (h : a.Overlaps b) :
    b.since a = (b.nanos : Int) + 1000000000 - a.nanos := by
  rw [since_eq_crossed, if_neg h.secondOfDay_lt.le.not_gt, if_pos h.secondOfDay_lt, h.isLeap_next,
    if_neg Bool.false_ne_true, h.next]
  omega

/-- All other differences have the sign of the order. -/
theorem since_pos_iff {t now : Instant} (h : ¬t.Overlaps now) (h' : ¬now.Overlaps t) :
    0 < t.since now ↔ now.before t = true := by
  have hleap : ∀ {a b : Instant}, ¬a.Overlaps b → a.isLeap = true → b.seconds = a.seconds + 1 → b.secondOfDay ≠ 0 :=
    fun hn hl hs hm => hn ⟨hl, hs, hm⟩
  have ht := @hleap _ _ h
  have hn := @hleap _ _ h'
  have hnanos := t.nanos_lt
  have hnanos' := now.nanos_lt
  have hlast := t.leap_last
  have hlast' := now.leap_last
  rw [before_iff, since_eq_crossed]
  simp only [isLeap_iff, secondOfDay] at ht hn ⊢
  split
  · split <;> omega
  · split
    · split <;> omega
    · omega

/-- One of two instants lies in a leap second at the end of a day, the other in the second behind it, and their
difference has not the sign of their order. -/
def Torn (t now : Instant) : Prop :=
  t.Overlaps now ∧ now.nanos + 1000000000 < t.nanos ∨ now.Overlaps t ∧ t.nanos + 1000000000 ≤ now.nanos

theorem since_pos_iff_of_not_torn {t now : Instant} :
    (0 < t.since now ↔ now.before t = true) ↔ ¬t.Torn now := by
  by_cases h : t.Overlaps now
  · have hnot : ¬now.Overlaps t := fun h' => by
      have := h.next
      have := h'.next
      omega
    simp only [Torn, h, hnot, h.since, h.not_before, true_and, false_and, or_false, Bool.false_eq_true, iff_false]
    omega
  · by_cases h' : now.Overlaps t
    · simp only [Torn, h, h', h'.since_swap, h'.before, true_and, false_and, false_or, iff_true]
      omega
    · simp only [Torn, h, h', since_pos_iff h h', false_and, or_self, not_false_eq_true]

theorem remaining_eq_none_iff {t now : Instant} : t.remaining now = none ↔ ¬0 < t.since now := by
  rw [remaining]
  split <;> simp [*]

end SessionVault.Instant
