import NodeRpc.Proofs.Number.Precision

/-!
# Operations on floats, as operations on rationals

An operation gives its exact result, rounded.

* `Moderate`                  zero, and what is far from the ends of both formats;
* `Binary.Approximates`       a finite float within one part in `2 ^ precision` of a rational;
* `Binary.ofRatio_approximates`, `divide_approximates`, `scale_approximates`
                              the operations give such a float for a moderate result;
* `Binary.ofInt_of_lt`        small integers are exact;
* `Binary.scale_of_lt`        a product that comes near a power of two reaches it;
* `Finite.rounded_eq`         the nearest integer of a float is that of its value.
-/

namespace NodeRpc

/-! ## Signs -/

def signed (negative : Bool) (q : ℚ) : ℚ := if negative then -q else q

theorem abs_signed (negative : Bool) (q : ℚ) : |signed negative q| = |q| := by
  cases negative with
  | false => rfl
  | true => exact abs_neg q

theorem signed_sub (negative : Bool) (p q : ℚ) :
    signed negative p - signed negative q = signed negative (p - q) := by
  cases negative with
  | false => rfl
  | true =>
    show -p - -q = -(p - q)
    ring

theorem signed_mul (negative : Bool) (p q : ℚ) :
    signed negative (p * q) = signed negative p * q := by
  cases negative with
  | false => rfl
  | true => exact neg_mul_eq_neg_mul p q

theorem signed_natAbs (i : ℤ) : signed (i < 0) (i.natAbs : ℚ) = i := by
  rw [Nat.cast_natAbs, Int.cast_abs]
  rcases lt_or_ge i 0 with h | h
  · rw [decide_eq_true h, abs_of_neg (Int.cast_lt_zero.2 h)]
    exact neg_neg _
  · rw [decide_eq_false (not_lt.2 h), abs_of_nonneg (Int.cast_nonneg h)]
    rfl

namespace Finite

variable {f : FloatFormat}

theorem abs_value (x : Finite f) : |x.value| = x.units / f.unitsPerOne := by
  show |NodeRpc.signed x.negative (x.units / f.unitsPerOne)| = _
  rw [abs_signed, abs_of_nonneg (by positivity)]

theorem value_eq_signed (x : Finite f) : x.value = NodeRpc.signed x.negative |x.value| := by
  rw [abs_value]
  rfl

theorem negative_eq {x : Finite f} (h : x.value ≠ 0) : x.negative = decide (x.value < 0) := by
  have hunits : (0 : ℚ) ≤ x.units / f.unitsPerOne := by positivity
  unfold value at h ⊢
  cases hx : x.negative with
  | false =>
    rw [hx, if_neg Bool.false_ne_true] at h
    rw [if_neg Bool.false_ne_true, eq_comm, decide_eq_false_iff_not, not_lt]
    exact hunits
  | true =>
    rw [hx, if_pos rfl, neg_ne_zero] at h
    rw [if_pos rfl, eq_comm, decide_eq_true_iff, neg_lt_zero]
    exact lt_of_le_of_ne hunits (Ne.symm h)

end Finite

/-! ## Rounded results -/

/-- Zero, and what is neither below `2 ^ -64` nor above `2 ^ 65`: both formats hold a number near
it to their full precision. -/
structure Moderate (q : ℚ) : Prop where
  lo : q ≠ 0 → 1 ≤ |q| * 2 ^ 64
  hi : |q| < 2 ^ 65

theorem Moderate.of_near {y q : ℚ} (h : |y - q| ≤ |q| / 2) (hlo : q ≠ 0 → 1 ≤ |q| * 2 ^ 63)
    (hhi : |q| < 2 ^ 64) : Moderate y where
  lo hy := by
    have hq : q ≠ 0 := by
      rintro rfl
      rw [sub_zero, abs_zero, zero_div] at h
      exact hy (abs_nonpos_iff.1 h)
    have hdiff := abs_sub_abs_le_abs_sub q y
    rw [abs_sub_comm] at hdiff
    linarith [hlo hq]
  hi := by linarith [abs_sub_abs_le_abs_sub y q, abs_nonneg q]

theorem one_le_abs_intCast {i : ℤ} (h : (i : ℚ) ≠ 0) : 1 ≤ |(i : ℚ)| := by
  have hone : (1 : ℤ) ≤ |i| := Int.one_le_abs (Int.cast_ne_zero.1 h)
  exact_mod_cast hone

theorem abs_intCast_lt {i : ℤ} {k : Nat} (h : i.natAbs < 2 ^ k) : |(i : ℚ)| < 2 ^ k := by
  rw [← Int.cast_abs, Int.abs_eq_natAbs]
  exact_mod_cast h

theorem moderate_intCast {i : ℤ} (h : i.natAbs < 2 ^ 65) : Moderate (i : ℚ) where
  lo hi := by linarith [one_le_abs_intCast hi]
  hi := abs_intCast_lt h

namespace Binary

variable {f : FloatFormat}

/-- A finite float that differs from a rational by at most one part in `2 ^ precision`. -/
def Approximates (x : Binary f) (q : ℚ) : Prop :=
  ∃ y : Finite f, x = .finite y ∧ |y.value - q| ≤ |q| / 2 ^ f.precision

theorem ofRatio_of_lt (negative : Bool) {n d : Nat} (h : f.nearest n d < f.limit) :
    ∃ y : Finite f, ofRatio f negative n d = .finite y ∧ y.negative = negative
      ∧ y.value = signed negative (f.units (f.nearest n d) / f.unitsPerOne) :=
  ⟨⟨negative, f.nearest n d, h⟩, dif_pos h, rfl, rfl⟩

/-- A rounded quotient is within the precision of the quotient. -/
theorem ofRatio_approximates {negative : Bool} {n d : Nat} {q : ℚ} (hd : 0 < d)
    (hq : signed negative (n / d) = q) (h : Moderate q) :
    (ofRatio f negative n d).Approximates q := by
  have hd' : (0 : ℚ) < d := Nat.cast_pos.2 hd
  have habs : |q| = n / d := by
    rw [← hq, abs_signed, abs_of_nonneg (by positivity)]
  have hsmall : n < 2 ^ 65 * d := by
    have hhi := h.hi
    rw [habs, div_lt_iff₀ hd'] at hhi
    exact_mod_cast hhi
  obtain ⟨y, hy, _, hvalue⟩ := ofRatio_of_lt negative (f.nearest_lt_limit hd hsmall)
  refine ⟨y, hy, ?_⟩
  rw [hvalue, ← hq, signed_sub, abs_signed, abs_signed,
    abs_of_nonneg (by positivity : (0 : ℚ) ≤ n / d)]
  rcases Nat.eq_zero_or_pos n with rfl | hn
  · rw [FloatFormat.units_nearest_zero]
    simp
  · refine f.abs_nearest_sub_le hd ?_
    have hlo := h.lo fun hzero => by
      rw [hzero, abs_zero, eq_comm, div_eq_zero_iff] at habs
      simp [hn.ne', hd.ne'] at habs
    rw [habs, div_mul_eq_mul_div, le_div_iff₀ hd', one_mul] at hlo
    have hlo' : d ≤ n * 2 ^ 64 := by exact_mod_cast hlo
    calc f.binade * d ≤ f.binade * (n * 2 ^ 64) := Nat.mul_le_mul_left _ hlo'
      _ = n * (f.binade * 2 ^ 64) := by ring
      _ ≤ n * f.unitsPerOne := Nat.mul_le_mul_left _ f.binade_mul_le_unitsPerOne

theorem divide_approximates (x : Finite f) {k : Nat} (hk : 0 < k) (h : Moderate (x.value / k)) :
    (divide k (.finite x)).Approximates (x.value / k) := by
  refine ofRatio_approximates (Nat.mul_pos f.unitsPerOne_pos hk) ?_ h
  show signed x.negative _ = signed x.negative (x.units / f.unitsPerOne) / k
  rw [div_eq_mul_inv _ (k : ℚ), ← signed_mul, Nat.cast_mul, div_mul_eq_div_div,
    div_eq_mul_inv _ (k : ℚ)]

theorem scale_approximates (x : Finite f) (k : Nat) (h : Moderate (x.value * k)) :
    (scale k (.finite x)).Approximates (x.value * k) := by
  refine ofRatio_approximates f.unitsPerOne_pos ?_ h
  show signed x.negative _ = signed x.negative (x.units / f.unitsPerOne) * k
  rw [← signed_mul, Nat.cast_mul, div_mul_eq_mul_div]

theorem ofInt_approximates (f : FloatFormat) {i : ℤ} (h : i.natAbs < 2 ^ 65) :
    (ofInt f i).Approximates i :=
  ofRatio_approximates Nat.one_pos (by rw [Nat.cast_one, div_one, signed_natAbs])
    (moderate_intCast h)

theorem ofInt_of_lt (f : FloatFormat) {i : ℤ} (h : i.natAbs < 2 ^ f.precision) :
    ∃ y : Finite f, ofInt f i = .finite y ∧ y.value = i := by
  have hsmall : i.natAbs < 2 ^ 65 := Nat.lt_of_lt_of_le h (by cases f <;> decide)
  obtain ⟨y, hy, _, hvalue⟩ := ofRatio_of_lt (i < 0) (f.nearest_integer_lt hsmall)
  refine ⟨y, hy, ?_⟩
  have hU : (f.unitsPerOne : ℚ) ≠ 0 := (Nat.cast_pos.2 f.unitsPerOne_pos).ne'
  rw [hvalue, f.units_nearest_of_lt h, Nat.cast_mul, mul_div_cancel_right₀ _ hU, signed_natAbs]

end Binary

/-! ## Large results -/

namespace Binary

variable {f : FloatFormat}

theorem ofInt_of_le (f : FloatFormat) {i : ℤ} {k : Nat} (hlow : 2 ^ k ≤ i.natAbs)
    (hhigh : i.natAbs < 2 ^ 65) :
    ∃ y : Finite f, ofInt f i = .finite y ∧ y.negative = decide (i < 0) ∧ 2 ^ k ≤ |y.value| := by
  obtain ⟨y, hy, hnegative, hvalue⟩ := ofRatio_of_lt (i < 0) (f.nearest_integer_lt hhigh)
  refine ⟨y, hy, hnegative, ?_⟩
  have hwhole := f.le_units_nearest hlow
  rw [Nat.le_div_iff_mul_le f.unitsPerOne_pos] at hwhole
  rw [hvalue, abs_signed, abs_of_nonneg (by positivity),
    le_div_iff₀ (Nat.cast_pos.2 f.unitsPerOne_pos)]
  exact_mod_cast hwhole

/-- A product that is a power of two, or less than half a step below it, is rounded to no less, or
is infinite; it keeps its sign. -/
theorem scale_of_lt (x : Finite f) {k j : Nat}
    (h : (2 ^ (f.precision + 1) - 1) * 2 ^ j < |x.value| * k) :
    scale k (.finite x) = .infinite x.negative
    ∨ ∃ y : Finite f, scale k (.finite x) = .finite y ∧ y.negative = x.negative
      ∧ 2 ^ (f.precision + 1 + j) ≤ |y.value| := by
  have hU : (0 : ℚ) < f.unitsPerOne := Nat.cast_pos.2 f.unitsPerOne_pos
  have hunits : (2 ^ (f.precision + 1) - 1) * 2 ^ j * f.unitsPerOne < x.units * k := by
    rw [x.abs_value, div_mul_eq_mul_div, lt_div_iff₀ hU] at h
    have hcast : (((2 ^ (f.precision + 1) - 1 : ℕ) : ℚ)) = 2 ^ (f.precision + 1) - 1 := by
      rw [Nat.cast_sub Nat.one_le_two_pow, Nat.cast_pow, Nat.cast_one, Nat.cast_ofNat]
    rw [← hcast] at h
    exact_mod_cast h
  have hproduct : (2 ^ (f.precision + 1) - 1) * 2 ^ (j + f.places) * f.unitsPerOne
      < x.units * k * f.unitsPerOne := by
    rw [Nat.pow_add 2 j, ← f.unitsPerOne_eq, ← Nat.mul_assoc]
    exact Nat.mul_lt_mul_of_pos_right hunits f.unitsPerOne_pos
  have hrounded := f.two_pow_le_units_nearest f.unitsPerOne_pos hproduct
  by_cases hfinite : f.nearest (x.units * k) f.unitsPerOne < f.limit
  · obtain ⟨y, hy, hnegative, hvalue⟩ := ofRatio_of_lt x.negative hfinite
    refine .inr ⟨y, hy, hnegative, ?_⟩
    rw [hvalue, abs_signed, abs_of_nonneg (by positivity), le_div_iff₀ hU]
    rw [← Nat.add_assoc, Nat.pow_add, ← f.unitsPerOne_eq] at hrounded
    exact_mod_cast hrounded
  · exact .inl (dif_neg hfinite)

end Binary

/-! ## Nearest integers -/

/-- The integer nearest to a rational, a half away from zero. -/
def roundAway (q : ℚ) : ℤ := if 0 ≤ q then ⌊q + 1 / 2⌋ else ⌈q - 1 / 2⌉

theorem roundAway_neg (q : ℚ) : roundAway (-q) = -roundAway q := by
  unfold roundAway
  rcases lt_trichotomy q 0 with h | rfl | h
  · rw [if_pos (neg_nonneg.2 h.le), if_neg (not_le.2 h), ← Int.floor_neg]
    congr 1
    ring
  · norm_num
  · rw [if_neg (not_le.2 (neg_neg_of_pos h)), if_pos h.le, ← Int.ceil_neg]
    congr 1
    ring

theorem roundAway_eq {q : ℚ} {i : ℤ} (h : |q - i| < 1 / 2) : roundAway q = i := by
  obtain ⟨hlo, hhi⟩ := abs_lt.1 h
  unfold roundAway
  split
  · rw [Int.floor_eq_iff]
    constructor <;> linarith
  · rw [Int.ceil_eq_iff]
    constructor <;> linarith

theorem le_roundAway_iff {q : ℚ} {i : ℤ} (hi : 0 < i) : i ≤ roundAway q ↔ (i : ℚ) - 1 / 2 ≤ q := by
  have hone : (1 : ℚ) ≤ i := by exact_mod_cast hi
  unfold roundAway
  split
  · rw [Int.le_floor]
    constructor <;> intro h <;> linarith
  · rename_i hneg
    rw [not_le] at hneg
    have hceil : ⌈q - 1 / 2⌉ ≤ 0 := Int.ceil_le.2 (by push_cast; linarith)
    constructor <;> intro h
    · omega
    · linarith

theorem Finite.rounded_eq {f : FloatFormat} (x : Finite f) : x.rounded = roundAway x.value := by
  have hU : (0 : ℚ) < f.unitsPerOne := Nat.cast_pos.2 f.unitsPerOne_pos
  have hunsigned : roundAway (x.units / f.unitsPerOne)
      = ((2 * x.units + f.unitsPerOne) / (2 * f.unitsPerOne) : ℕ) := by
    have hhalf : (x.units / f.unitsPerOne : ℚ) + 1 / 2
        = ((2 * x.units + f.unitsPerOne : ℕ) : ℚ) / ((2 * f.unitsPerOne : ℕ) : ℚ) := by
      push_cast
      field_simp
    unfold roundAway
    rw [if_pos (by positivity), hhalf, Rat.floor_natCast_div_natCast]
    rfl
  unfold Finite.rounded Finite.signed Finite.value
  split
  · rw [roundAway_neg, hunsigned]
  · rw [hunsigned]

/-! ## Integers held between bounds -/

namespace Integer

variable {w : IntWidth} {i : ℤ}

theorem clamp_value (n : Integer w) : clamp w n.value = n := by
  refine ext ?_
  show max w.min (min w.max n.value) = n.value
  rw [min_eq_right n.hi, max_eq_right n.lo]

theorem value_clamp_of_le_min (h : i ≤ w.min) : (clamp w i).value = w.min := by
  have hmax : i ≤ w.max := h.trans (w.min_nonpos.trans w.max_nonneg)
  show max w.min (min w.max i) = w.min
  rw [min_eq_right hmax, max_eq_left h]

theorem value_clamp_of_max_le (h : w.max ≤ i) : (clamp w i).value = w.max := by
  show max w.min (min w.max i) = w.max
  rw [min_eq_left h, max_eq_right (w.min_nonpos.trans w.max_nonneg)]

end Integer

end NodeRpc
