import Mathlib.Algebra.Order.Field.Basic
import Mathlib.Data.Nat.Cast.Order.Field
import Mathlib.Tactic.FieldSimp
import Mathlib.Tactic.Linarith
import Mathlib.Tactic.NormNum
import Mathlib.Tactic.Positivity
import Mathlib.Tactic.Ring
import NodeRpc.Proofs.Number.Truncation

/-!
# How far rounding moves a number

The magnitude nearest to a quotient has the quotient, rounded off by its shift, as its units
(`FloatFormat.units_nearest`).  Everything about the size of the error follows from that:

* `FloatFormat.abs_nearest_sub_le`        the error is at most one part in `2 ^ precision`;
* `FloatFormat.units_nearest_of_lt`       small integers are exact, and so are their products with
                                          powers of two;
* `FloatFormat.two_pow_le_units_nearest`  what comes within half a step of a power of two reaches
                                          it.
-/

namespace NodeRpc

namespace FloatFormat

variable (f : FloatFormat) {n d : Nat}

/-! ## The units of a rounded quotient -/

theorem binade_mul_le_unitsPerOne : f.binade * 2 ^ 64 ≤ f.unitsPerOne := by cases f <;> decide

theorem binade_pos : 0 < f.binade := by
  rw [binade_eq]
  exact Nat.two_pow_pos _

/-- How many binary places of a quotient in units are rounded off. -/
def shift (n d : Nat) : Nat := (n * f.unitsPerOne / d).log2 + 1 - f.precision

def significand (n d : Nat) : Nat := divideToEven (n * f.unitsPerOne) (d * 2 ^ f.shift n d)

theorem nearest_eq (n d : Nat) :
    f.nearest n d = f.shift n d * f.binade + f.significand n d := by
  unfold nearest significand
  rw [← Nat.shiftLeft_eq]
  rfl

/-- From the second binade on, each binade steps by twice the step before it. -/
theorem units_add_mul {t : Nat} (ht : t < f.binade) (s : Nat) :
    f.units (t + (s + 1) * f.binade) = (f.binade + t) * 2 ^ s := by
  have hnot : ¬ t + (s + 1) * f.binade < f.binade := by
    rw [Nat.succ_mul]
    omega
  unfold units
  rw [if_neg hnot, Nat.add_mul_mod_self_right, Nat.mod_eq_of_lt ht,
    Nat.add_mul_div_right _ _ f.binade_pos, Nat.div_eq_of_lt ht, Nat.zero_add, Nat.add_sub_cancel,
    Nat.shiftLeft_eq]

/-- A significand of up to two binades behind a shift stands for as many steps of the shift; at two
binades it carries into the next one. -/
theorem units_shift {s r : Nat} (hlow : s = 0 ∨ f.binade ≤ r) (hhigh : r ≤ 2 * f.binade) :
    f.units (s * f.binade + r) = r * 2 ^ s := by
  rcases Nat.lt_or_ge r f.binade with hlt | hge
  · obtain rfl : s = 0 := hlow.resolve_right (Nat.not_le.2 hlt)
    unfold units
    rw [Nat.zero_mul, Nat.zero_add, if_pos hlt, Nat.pow_zero, Nat.mul_one]
  obtain ⟨t, rfl⟩ := Nat.exists_eq_add_of_le hge
  rcases Nat.lt_or_ge t f.binade with hlt | hge'
  · have hsplit : s * f.binade + (f.binade + t) = t + (s + 1) * f.binade := by ring
    rw [hsplit, f.units_add_mul hlt]
  · obtain rfl : t = f.binade := by omega
    have hsplit : s * f.binade + (f.binade + f.binade) = 0 + (s + 1 + 1) * f.binade := by ring
    rw [hsplit, f.units_add_mul f.binade_pos, Nat.pow_succ]
    ring

theorem significand_le (n d : Nat) : f.significand n d ≤ 2 * f.binade := by
  have hsmall := div_shift_lt f.precision (n * f.unitsPerOne / d)
  have hround := divideToEven_le (n * f.unitsPerOne) (d * 2 ^ f.shift n d)
  rw [← Nat.div_div_eq_div_mul] at hround
  rw [two_mul_binade]
  exact Nat.le_trans hround hsmall

theorem le_of_shift_pos (h : 0 < f.shift n d) :
    2 ^ (f.precision - 1 + f.shift n d) ≤ n * f.unitsPerOne / d := by
  have hprecision := f.precision_pos
  have hlog : (n * f.unitsPerOne / d).log2 = f.precision - 1 + f.shift n d := by
    unfold shift at h ⊢
    omega
  have hne : n * f.unitsPerOne / d ≠ 0 := by
    intro hzero
    rw [hzero, Nat.log2_zero] at hlog
    omega
  rw [← hlog]
  exact Nat.log2_self_le hne

theorem le_significand (h : 0 < f.shift n d) : f.binade ≤ f.significand n d := by
  refine Nat.le_trans ?_ (div_le_divideToEven _ _)
  rw [← Nat.div_div_eq_div_mul, Nat.le_div_iff_mul_le (Nat.two_pow_pos _), binade_eq, ← Nat.pow_add]
  exact f.le_of_shift_pos h

/-- The magnitude nearest to a quotient has the quotient, rounded off by its shift, as its units. -/
theorem units_nearest (n d : Nat) :
    f.units (f.nearest n d) = f.significand n d * 2 ^ f.shift n d := by
  rw [nearest_eq]
  refine f.units_shift ?_ (f.significand_le n d)
  exact (Nat.eq_zero_or_pos _).imp_right f.le_significand

theorem units_nearest_zero (d : Nat) : f.units (f.nearest 0 d) = 0 := by
  have hzero : f.significand 0 d = 0 := by
    simp [significand, divideToEven]
  rw [units_nearest, hzero, Nat.zero_mul]

/-! ## The error -/

theorem divideToEven_near (n : Nat) (hd : 0 < d) :
    2 * (divideToEven n d * d) ≤ 2 * n + d ∧ 2 * n ≤ 2 * (divideToEven n d * d) + d := by
  have hdiv : n / d * d + n % d = n := Nat.div_add_mod' n d
  have hmod : n % d < d := Nat.mod_lt _ hd
  have hup : (n / d + 1) * d = n / d * d + d := Nat.succ_mul _ _
  rw [divideToEven_eq]
  split
  · omega
  split
  · omega
  · rcases Nat.mod_two_eq_zero_or_one (n / d) with h | h
    · rw [h, Nat.add_zero]
      omega
    · rw [h]
      omega

theorem abs_units_nearest_sub_le (n : Nat) (hd : 0 < d) :
    |(f.units (f.nearest n d) : ℚ) - n * f.unitsPerOne / d| ≤ 2 ^ f.shift n d / 2 := by
  have hd' : (0 : ℚ) < d := Nat.cast_pos.2 hd
  have hstep : 0 < d * 2 ^ f.shift n d := Nat.mul_pos hd (Nat.two_pow_pos _)
  obtain ⟨hlow, hhigh⟩ := divideToEven_near (n * f.unitsPerOne) hstep
  change 2 * (f.significand n d * (d * 2 ^ f.shift n d)) ≤ _ at hlow
  change _ ≤ 2 * (f.significand n d * (d * 2 ^ f.shift n d)) + _ at hhigh
  rw [units_nearest]
  have hexact : (n * f.unitsPerOne : ℚ) = n * f.unitsPerOne / d * d :=
    (div_mul_cancel₀ _ hd'.ne').symm
  have hlow' : (2 : ℚ) * (f.significand n d * (d * 2 ^ f.shift n d))
      ≤ 2 * (n * f.unitsPerOne) + d * 2 ^ f.shift n d := by exact_mod_cast hlow
  have hhigh' : (2 : ℚ) * (n * f.unitsPerOne)
      ≤ 2 * (f.significand n d * (d * 2 ^ f.shift n d)) + d * 2 ^ f.shift n d := by
    exact_mod_cast hhigh
  rw [hexact] at hlow' hhigh'
  push_cast
  generalize (n * f.unitsPerOne / d : ℚ) = q at hlow' hhigh' ⊢
  refine abs_le.2 ⟨le_of_mul_le_mul_right ?_ hd', le_of_mul_le_mul_right ?_ hd'⟩
  · linarith
  · linarith

theorem two_pow_shift_le (hd : 0 < d) (h : f.binade * d ≤ n * f.unitsPerOne) :
    (2 ^ f.precision * 2 ^ f.shift n d : ℚ) ≤ 2 * (n * f.unitsPerOne / d) := by
  have hfloor : f.binade * 2 ^ f.shift n d ≤ n * f.unitsPerOne / d := by
    rcases Nat.eq_zero_or_pos (f.shift n d) with hzero | hpos
    · rw [hzero, Nat.pow_zero, Nat.mul_one, Nat.le_div_iff_mul_le hd]
      exact h
    · rw [binade_eq, ← Nat.pow_add]
      exact f.le_of_shift_pos hpos
  have hcast : ((f.binade * 2 ^ f.shift n d : ℕ) : ℚ) ≤ n * f.unitsPerOne / d := by
    refine le_trans (Nat.cast_le.2 hfloor) ?_
    rw [← Nat.cast_mul]
    exact Nat.cast_div_le
  have htwo : (2 : ℚ) * f.binade = 2 ^ f.precision := by exact_mod_cast f.two_mul_binade
  rw [← htwo, mul_assoc]
  push_cast at hcast
  exact mul_le_mul_of_nonneg_left hcast (by norm_num)

/-- Rounding a quotient moves it by at most one part in `2 ^ precision`. -/
theorem abs_nearest_sub_le (hd : 0 < d) (h : f.binade * d ≤ n * f.unitsPerOne) :
    |(f.units (f.nearest n d) / f.unitsPerOne : ℚ) - n / d| ≤ n / d / 2 ^ f.precision := by
  have hU : (0 : ℚ) < f.unitsPerOne := Nat.cast_pos.2 f.unitsPerOne_pos
  have hstep : (2 ^ f.shift n d / 2 : ℚ) ≤ n * f.unitsPerOne / d / 2 ^ f.precision := by
    rw [le_div_iff₀ (by positivity)]
    linarith [f.two_pow_shift_le hd h]
  have hunits : (f.units (f.nearest n d) / f.unitsPerOne : ℚ) - n / d
      = (f.units (f.nearest n d) - n * f.unitsPerOne / d) / f.unitsPerOne := by
    field_simp
  rw [hunits, abs_div, abs_of_pos hU, div_le_iff₀ hU]
  calc |(f.units (f.nearest n d) : ℚ) - n * f.unitsPerOne / d|
      ≤ n * f.unitsPerOne / d / 2 ^ f.precision :=
        le_trans (f.abs_units_nearest_sub_le n hd) hstep
    _ = n / d / 2 ^ f.precision * f.unitsPerOne := by ring

/-! ## Numbers that are exact, and powers of two -/

theorem units_nearest_of_dvd (h : 2 ^ f.shift n 1 ∣ n * f.unitsPerOne) :
    f.units (f.nearest n 1) = n * f.unitsPerOne := by
  have hexact : f.significand n 1 = n * f.unitsPerOne / 2 ^ f.shift n 1 := by
    unfold significand
    rw [Nat.one_mul, divideToEven_eq, Nat.mod_eq_zero_of_dvd h, if_pos (Nat.two_pow_pos _)]
  rw [units_nearest, hexact, Nat.div_mul_cancel h]

theorem units_nearest_mul_two_pow {m : Nat} (h : m < 2 ^ f.precision) (j : Nat) :
    f.units (f.nearest (m * 2 ^ j) 1) = m * 2 ^ j * f.unitsPerOne := by
  have hscaled : m * 2 ^ j * f.unitsPerOne / 1 < 2 ^ (f.precision + (j + f.places)) := by
    rw [Nat.div_one, Nat.mul_assoc, unitsPerOne_eq, ← Nat.pow_add, Nat.pow_add 2 f.precision]
    exact Nat.mul_lt_mul_of_pos_right h (Nat.two_pow_pos _)
  have hshift : f.shift (m * 2 ^ j) 1 ≤ j + f.places := shift_le f.precision_pos hscaled
  apply units_nearest_of_dvd
  rw [Nat.mul_assoc, unitsPerOne_eq, ← Nat.pow_add]
  exact Nat.dvd_mul_left_of_dvd (Nat.pow_dvd_pow 2 hshift) m

theorem units_nearest_of_lt (h : n < 2 ^ f.precision) :
    f.units (f.nearest n 1) = n * f.unitsPerOne := by
  have hexact := f.units_nearest_mul_two_pow h 0
  rwa [Nat.pow_zero, Nat.mul_one] at hexact

/-- A quotient that is a power of two, or less than half a step below it, is rounded to no less. -/
theorem two_pow_le_units_nearest {k : Nat} (hd : 0 < d)
    (h : (2 ^ (f.precision + 1) - 1) * 2 ^ k * d < n * f.unitsPerOne) :
    2 ^ (f.precision + 1 + k) ≤ f.units (f.nearest n d) := by
  have hprecision := f.precision_pos
  have hpow : 2 ^ (f.precision + 1) = 2 ^ f.precision * 2 := Nat.pow_succ _ _
  have hpos : 0 < 2 ^ f.precision := Nat.two_pow_pos _
  have hquotient : 2 ^ (f.precision + k) ≤ n * f.unitsPerOne / d := by
    rw [Nat.le_div_iff_mul_le hd, Nat.pow_add]
    refine Nat.le_trans (Nat.mul_le_mul_right d (Nat.mul_le_mul_right _ ?_)) (Nat.le_of_lt h)
    omega
  have hshift : k + 1 ≤ f.shift n d := by
    have hne := Nat.ne_of_gt (Nat.lt_of_lt_of_le (Nat.two_pow_pos _) hquotient)
    have hlog := (Nat.le_log2 hne).2 hquotient
    unfold shift
    omega
  rw [units_nearest]
  rcases Nat.eq_or_lt_of_le hshift with heq | hlt
  · -- the last binade below the power: its significand is rounded up to the next binade
    have hstep : 0 < d * 2 ^ f.shift n d := Nat.mul_pos hd (Nat.two_pow_pos _)
    have hnear := (divideToEven_near (n * f.unitsPerOne) hstep).2
    change _ ≤ 2 * (f.significand n d * (d * 2 ^ f.shift n d)) + _ at hnear
    have hlow : (2 ^ (f.precision + 1) - 1) * (d * 2 ^ f.shift n d)
        < (2 * f.significand n d + 1) * (d * 2 ^ f.shift n d) := by
      calc (2 ^ (f.precision + 1) - 1) * (d * 2 ^ f.shift n d)
          = 2 * ((2 ^ (f.precision + 1) - 1) * 2 ^ k * d) := by
            rw [← heq, Nat.pow_succ]
            ring
        _ < 2 * (n * f.unitsPerOne) := by omega
        _ ≤ 2 * (f.significand n d * (d * 2 ^ f.shift n d)) + d * 2 ^ f.shift n d := hnear
        _ = (2 * f.significand n d + 1) * (d * 2 ^ f.shift n d) := by ring
    have hround := Nat.lt_of_mul_lt_mul_right hlow
    calc 2 ^ (f.precision + 1 + k) = 2 ^ f.precision * 2 ^ (k + 1) := by
          rw [← Nat.pow_add]
          congr 1
          omega
      _ ≤ f.significand n d * 2 ^ f.shift n d := by
          rw [← heq]
          exact Nat.mul_le_mul_right _ (by omega)
  · have hpos : 0 < f.shift n d := by omega
    calc 2 ^ (f.precision + 1 + k) ≤ 2 ^ (f.precision - 1 + f.shift n d) :=
          Nat.pow_le_pow_right (by decide) (by omega)
      _ = f.binade * 2 ^ f.shift n d := by rw [Nat.pow_add, binade_eq]
      _ ≤ f.significand n d * 2 ^ f.shift n d := Nat.mul_le_mul_right _ (f.le_significand hpos)

end FloatFormat

end NodeRpc
