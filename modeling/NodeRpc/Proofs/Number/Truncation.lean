import Mathlib.Data.Rat.Floor
import NodeRpc.Proofs.Number.Rounding

/-!
# The whole part of a number

A number has an exact rational value, and `truncate` is its integer part toward zero.

* `Finite.truncated_eq`             the integer part of a float is that of its value;
* `FloatFormat.le_units_nearest`    rounding an integer stays above a power of two below it;
* `Binary.clampWith_ofInt`          so integers beyond the signed 64-bit range stay beyond it.
-/

namespace NodeRpc

/-! ## Exact values -/

/-- The integer part of a rational, toward zero. -/
def truncate (q : ℚ) : ℤ := if 0 ≤ q then ⌊q⌋ else ⌈q⌉

theorem truncate_intCast (i : ℤ) : truncate i = i := by
  unfold truncate
  rw [Int.floor_intCast, Int.ceil_intCast, ite_self]

theorem truncate_neg (q : ℚ) : truncate (-q) = -truncate q := by
  unfold truncate
  rcases lt_trichotomy q 0 with h | rfl | h
  · rw [if_pos (neg_nonneg.2 h.le), if_neg (not_le.2 h), Int.floor_neg]
  · simp
  · rw [if_neg (not_le.2 (neg_neg_of_pos h)), if_pos h.le, Int.ceil_neg]

theorem truncate_natCast_div (n d : ℕ) : truncate (n / d : ℚ) = (n / d : ℕ) := by
  have hnonneg : (0 : ℚ) ≤ n / d := by positivity
  unfold truncate
  rw [if_pos hnonneg, Rat.floor_natCast_div_natCast]
  rfl

namespace Finite

variable {f : FloatFormat}

def value (x : Finite f) : ℚ :=
  if x.negative then -(x.units / f.unitsPerOne : ℚ) else x.units / f.unitsPerOne

theorem truncated_eq (x : Finite f) : x.truncated = truncate x.value := by
  unfold truncated signed value
  split
  · rw [truncate_neg, truncate_natCast_div]
  · rw [truncate_natCast_div]

end Finite

def JsonNumber.value : JsonNumber → ℚ
  | integer i _ _ => i
  | float x => x.value

/-! ## Integers as floats -/

namespace FloatFormat

variable (f : FloatFormat) {n m s : Nat}

theorem binade_eq : f.binade = 2 ^ (f.precision - 1) := by
  rw [binade, Nat.shiftLeft_eq, Nat.one_mul]

theorem le_units (h : (s + 1) * f.binade ≤ m) : 2 ^ (f.precision - 1 + s) ≤ f.units m := by
  have hpos : 0 < f.binade := by
    rw [binade_eq]
    exact Nat.two_pow_pos _
  have hle : f.binade ≤ m := Nat.le_trans (Nat.le_mul_of_pos_left _ (Nat.succ_pos s)) h
  have hs : s ≤ m / f.binade - 1 := Nat.le_sub_of_add_le ((Nat.le_div_iff_mul_le hpos).2 h)
  unfold units
  rw [if_neg (Nat.not_lt.2 hle), Nat.shiftLeft_eq, Nat.pow_add, ← binade_eq]
  exact Nat.mul_le_mul (Nat.le_add_right _ _) (Nat.pow_le_pow_right (by decide) hs)

theorem div_le_divideToEven (n d : Nat) : n / d ≤ divideToEven n d := by
  rw [divideToEven_eq]
  split
  · exact Nat.le_refl _
  · split <;> omega

theorem precision_le_places : f.precision - 1 ≤ f.places := by cases f <;> decide

theorem le_nearest {k : Nat} (h : 2 ^ k ≤ n) :
    (k + f.places - (f.precision - 1) + 1) * f.binade ≤ f.nearest n 1 := by
  have hscaled : 2 ^ (k + f.places) ≤ n * f.unitsPerOne := by
    rw [Nat.pow_add, ← unitsPerOne_eq]
    exact Nat.mul_le_mul_right _ h
  have hlog : k + f.places ≤ (n * f.unitsPerOne).log2 :=
    (Nat.le_log2 (Nat.ne_of_gt (Nat.lt_of_lt_of_le (Nat.two_pow_pos _) hscaled))).2 hscaled
  have hself : 2 ^ (n * f.unitsPerOne).log2 ≤ n * f.unitsPerOne :=
    Nat.log2_self_le (Nat.ne_of_gt (Nat.lt_of_lt_of_le (Nat.two_pow_pos _) hscaled))
  have hprecision := f.precision_pos
  have hplaces := f.precision_le_places
  unfold nearest
  simp only [Nat.div_one]
  generalize n * f.unitsPerOne = q at hlog hself
  -- the shift leaves a significand of one binade at least
  have hsum : q.log2 = f.precision - 1 + (q.log2 + 1 - f.precision) := by omega
  have hsignificand : f.binade ≤ divideToEven q (1 <<< (q.log2 + 1 - f.precision)) := by
    refine Nat.le_trans ?_ (div_le_divideToEven _ _)
    rw [Nat.shiftLeft_eq, Nat.one_mul, Nat.le_div_iff_mul_le (Nat.two_pow_pos _), binade_eq,
      ← Nat.pow_add, ← hsum]
    exact hself
  have hshift : k + f.places - (f.precision - 1) ≤ q.log2 + 1 - f.precision := by omega
  have hmul := Nat.mul_le_mul_right f.binade hshift
  rw [Nat.add_mul, Nat.one_mul]
  exact Nat.add_le_add hmul hsignificand

/-- Rounding an integer stays above a power of two below it. -/
theorem le_units_nearest {k : Nat} (h : 2 ^ k ≤ n) :
    2 ^ k ≤ f.units (f.nearest n 1) / f.unitsPerOne := by
  have hunits := f.le_units (f.le_nearest h)
  have hplaces := f.precision_le_places
  have hexponent : f.precision - 1 + (k + f.places - (f.precision - 1)) = k + f.places := by omega
  rw [hexponent] at hunits
  rw [unitsPerOne_eq, Nat.le_div_iff_mul_le (Nat.two_pow_pos _), ← Nat.pow_add]
  exact hunits

end FloatFormat

/-! ## Bounds -/

namespace Binary

variable {f : FloatFormat}

/-- An integer of 64 bits beyond the signed range is rounded to a value beyond it, which is taken
for its bound. -/
theorem clampWith_ofInt {i : Int} (lo : IntWidth.int64.max < i) (hi : i ≤ 0xffffffffffffffff) :
    (ofInt f i).clampWith Finite.truncated IntWidth.int64.min IntWidth.int64.max
      = IntWidth.int64.max := by
  change 0x7fffffffffffffff < i at lo
  have hnat : 2 ^ 63 ≤ i.natAbs := by omega
  have hfinite : f.nearest i.natAbs 1 < f.limit := f.nearest_integer_lt (by omega)
  have hsign : decide (i < 0) = false := decide_eq_false (by omega)
  have hwhole := f.le_units_nearest hnat
  unfold ofInt ofRatio
  rw [dif_pos hfinite, hsign]
  show max IntWidth.int64.min (min IntWidth.int64.max
    (f.units (f.nearest i.natAbs 1) / f.unitsPerOne : Nat)) = IntWidth.int64.max
  generalize f.units (f.nearest i.natAbs 1) / f.unitsPerOne = whole at hwhole
  simp only [IntWidth.min, IntWidth.max]
  omega

end Binary

end NodeRpc
