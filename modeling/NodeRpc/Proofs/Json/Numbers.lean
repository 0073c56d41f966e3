import NodeRpc.Json.Raw
import NodeRpc.Proofs.Number.Precision

/-!
# The double that a number is read as

The text of a number is read in double arithmetic, in up to three roundings.  With a coefficient and
a power of ten that are doubles themselves only the last of them moves anything, and the result is
the nearest double.

* `Decimal.toDouble_eq_toBinary`     short decimals read to the nearest double;
* `RawNumber.heldDecimal_eq`         digits that fit 64 bits are all held;
* `RawNumber.toFloat?_eq_nearest`    so short texts read to the nearest double.
-/

namespace NodeRpc

/-! ## Scaling a quotient -/

namespace FloatFormat

variable (f : FloatFormat)

theorem divideToEven_mul_mul (n d : Nat) {k : Nat} (hk : 0 < k) :
    divideToEven (n * k) (d * k) = divideToEven n d := by
  rw [divideToEven_eq, divideToEven_eq, Nat.mul_div_mul_right _ _ hk, Nat.mul_mod_mul_right,
    ← Nat.mul_assoc]
  simp only [Nat.mul_lt_mul_right hk]

theorem nearest_mul_mul (n d : Nat) {k : Nat} (hk : 0 < k) :
    f.nearest (n * k) (d * k) = f.nearest n d := by
  have hshift : f.shift (n * k) (d * k) = f.shift n d := by
    unfold shift
    rw [Nat.mul_right_comm, Nat.mul_div_mul_right _ _ hk]
  rw [nearest_eq, nearest_eq, significand, significand, hshift, Nat.mul_right_comm,
    Nat.mul_right_comm d, divideToEven_mul_mul _ _ hk]

/-- The value nearest to a natural number is a whole number: the step is at most one, and then
nothing is rounded off, or it is a multiple of one. -/
theorem nearestWhole_mul (n : Nat) :
    f.nearestWhole n * f.unitsPerOne = f.units (f.nearest n 1) := by
  apply Nat.div_mul_cancel
  rcases Nat.le_total (f.shift n 1) f.places with hle | hle
  · have hdvd : 2 ^ f.shift n 1 ∣ n * f.unitsPerOne := by
      rw [unitsPerOne_eq]
      exact Nat.dvd_mul_left_of_dvd (Nat.pow_dvd_pow 2 hle) n
    rw [f.units_nearest_of_dvd hdvd]
    exact Nat.dvd_mul_left _ _
  · rw [units_nearest, unitsPerOne_eq]
    exact Nat.dvd_mul_left_of_dvd (Nat.pow_dvd_pow 2 hle) _

theorem nearestWhole_eq {m : Nat} (h : m < 2 ^ f.precision) (j : Nat) :
    f.nearestWhole (m * 2 ^ j) = m * 2 ^ j := by
  unfold nearestWhole
  rw [f.units_nearest_mul_two_pow h, Nat.mul_div_cancel _ f.unitsPerOne_pos]

end FloatFormat

/-! ## Short factors -/

namespace Binary

theorem tensFactor_of_le {k : Nat} (h : k ≤ 22) : tensFactor k = 10 ^ k := by
  have hfive : 5 ^ k < 2 ^ FloatFormat.double.precision :=
    Nat.lt_of_le_of_lt (Nat.pow_le_pow_right (by decide) h) (by decide)
  have hsplit : 10 ^ k = 5 ^ k * 2 ^ k := Nat.mul_pow 5 2 k
  show FloatFormat.double.nearestWhole (10 ^ k) = _
  rw [hsplit, FloatFormat.double.nearestWhole_eq hfive]

theorem ofRatio_mul_mul {f : FloatFormat} (negative : Bool) (n d : Nat) {k : Nat} (hk : 0 < k) :
    ofRatio f negative (n * k) (d * k) = ofRatio f negative n d := by
  unfold ofRatio
  simp only [f.nearest_mul_mul n d hk]

theorem ofRatio_zero {f : FloatFormat} (negative : Bool) (d : Nat) :
    ofRatio f negative 0 d = .finite (.zero negative) := by
  have hzero : f.nearest 0 d = 0 := by
    cases f <;> simp [FloatFormat.nearest, FloatFormat.divideToEven, FloatFormat.precision]
  unfold ofRatio
  simp only [hzero, f.limit_pos]
  rfl

variable (negative : Bool) {n : Nat}

theorem ofRatio_one_of_lt (h : n < 2 ^ 53) :
    ∃ x : Finite .double, ofRatio .double negative n 1 = .finite x ∧ x.negative = negative
      ∧ x.units = n * FloatFormat.double.unitsPerOne := by
  have hlimit := FloatFormat.double.nearest_integer_lt (Nat.lt_trans h (by decide))
  exact ⟨⟨negative, _, hlimit⟩, dif_pos hlimit, rfl, FloatFormat.double.units_nearest_of_lt h⟩

theorem scale_ofRatio_one (h : n < 2 ^ 53) (k : Nat) :
    (ofRatio .double negative n 1).scale k = ofRatio .double negative (n * k) 1 := by
  obtain ⟨x, hx, hnegative, hunits⟩ := ofRatio_one_of_lt negative h
  rw [hx]
  show ofRatio .double x.negative (x.units * k) _ = _
  rw [hnegative, hunits, Nat.mul_right_comm, ← ofRatio_mul_mul negative (n * k) 1
    FloatFormat.double.unitsPerOne_pos, Nat.one_mul]

theorem divide_ofRatio_one (h : n < 2 ^ 53) (k : Nat) :
    (ofRatio .double negative n 1).divide k = ofRatio .double negative n k := by
  obtain ⟨x, hx, hnegative, hunits⟩ := ofRatio_one_of_lt negative h
  rw [hx]
  show ofRatio .double x.negative x.units (_ * k) = _
  rw [hnegative, hunits, Nat.mul_comm _ k, ofRatio_mul_mul _ _ _ FloatFormat.double.unitsPerOne_pos]

end Binary

/-! ## Decimals -/

theorem tens_of_nonneg {e : Int} (h : 0 ≤ e) : tens e = 10 ^ e.natAbs := by
  have hnat : e.toNat = e.natAbs := by omega
  exact congrArg (Nat.pow 10) hnat

theorem tens_of_nonpos {e : Int} (h : e ≤ 0) : tens e = 1 := by
  unfold tens
  rw [Int.toNat_of_nonpos h]

namespace Decimal

variable {d : Decimal} {negative : Bool}

theorem toBinary_of_leading {f : FloatFormat} (hlow : -400 ≤ d.leading) (hhigh : d.leading ≤ 400) :
    d.toBinary f negative
      = .ofRatio f negative (d.coefficient * tens d.exponent) (tens (-d.exponent)) := by
  unfold toBinary
  by_cases hzero : d.coefficient = 0
  · rw [if_pos hzero, hzero, Nat.zero_mul, Binary.ofRatio_zero]
  · rw [if_neg hzero, if_neg (Int.not_lt.2 hhigh), if_neg (Int.not_lt.2 hlow)]

theorem leading_bounds (h : d.coefficient < 2 ^ 53) :
    d.exponent ≤ d.leading ∧ d.leading ≤ d.exponent + 15 := by
  have hlow : 0 < d.digits.length := Nat.length_toDigits_pos
  have hhigh : d.digits.length ≤ 16 :=
    (Nat.length_toDigits_le_iff (by decide) (by decide)).2 (Nat.lt_trans h (by decide))
  unfold leading
  omega

/-- A coefficient of 53 bits and a power of up to `10 ^ 22` are doubles themselves, so a decimal
made of them is read to the nearest double. -/
theorem toDouble_eq_toBinary (hcoefficient : d.coefficient < 2 ^ 53)
    (hexponent : d.exponent.natAbs ≤ 22) : d.toDouble negative = d.toBinary .double negative := by
  obtain ⟨hlow, hhigh⟩ := d.leading_bounds hcoefficient
  rw [toBinary_of_leading (by omega) (by omega)]
  have hmax : d.exponent.natAbs ≤ Binary.maxTens := Nat.le_trans hexponent (by decide)
  have hfactor := Binary.tensFactor_of_le hexponent
  unfold toDouble
  simp only []
  rcases lt_or_ge d.exponent 0 with hneg | hnonneg
  · rw [if_pos hneg, Binary.divideTens, if_pos hmax, hfactor,
      Binary.divide_ofRatio_one negative hcoefficient, tens_of_nonpos (by omega),
      tens_of_nonneg (by omega), Int.natAbs_neg, Nat.mul_one]
  · rw [if_neg (not_lt.2 hnonneg), if_pos (by omega), hfactor,
      Binary.scale_ofRatio_one negative hcoefficient, tens_of_nonneg hnonneg,
      tens_of_nonpos (by omega)]

/-- With a longer coefficient that is rounded itself, the reading may miss the nearest double. -/
example : (⟨9999999999999999, -16⟩ : Decimal).toDouble false = .ofInt .double 1
    ∧ (⟨9999999999999999, -16⟩ : Decimal).toBinary .double false ≠ .ofInt .double 1 := by
  decide +kernel

end Decimal

/-! ## Texts -/

theorem le_foldl_appendDigit (n : Nat) (digits : Bytes) : n ≤ digits.foldl appendDigit n := by
  induction digits generalizing n with
  | nil => exact Nat.le_refl n
  | cons b digits ih =>
    refine Nat.le_trans ?_ (ih (appendDigit n b))
    unfold appendDigit
    omega

namespace RawNumber

theorem extend_of_le {n : Nat} {digits : Bytes}
    (h : digits.foldl appendDigit n ≤ 0xffffffffffffffff) :
    extend n digits = (digits.foldl appendDigit n, 0) := by
  induction digits generalizing n with
  | nil => rfl
  | cons b digits ih =>
    rw [extend, if_pos (Nat.le_trans (le_foldl_appendDigit _ digits) h), ih h, List.foldl_cons]

variable {r : RawNumber}

theorem heldDecimal_eq (h : r.decimal.coefficient ≤ 0xffffffffffffffff) :
    r.heldDecimal = r.decimal := by
  have happend : r.decimal.coefficient
      = (r.fraction.getD []).foldl appendDigit (r.whole.foldl appendDigit 0) := List.foldl_append
  rw [happend] at h
  have hwhole : extend 0 r.whole = (r.whole.foldl appendDigit 0, 0) :=
    extend_of_le (Nat.le_trans (le_foldl_appendDigit _ _) h)
  have hexponent : r.decimal.exponent = r.power - (r.fraction.getD []).length := rfl
  unfold heldDecimal
  rw [hwhole]
  simp only [extend_of_le h]
  rw [← happend, Nat.sub_zero, Nat.cast_zero, Int.add_zero, ← hexponent]

/-- A text of up to 53 bits of digits, at a power of ten of up to 22, is read to the nearest double. -/
theorem toFloat?_eq_nearest (hcoefficient : r.decimal.coefficient < 2 ^ 53)
    (hexponent : r.decimal.exponent.natAbs ≤ 22) :
    r.toFloat? = ((r.decimal.toBinary .double r.negative).finite?).map .float := by
  unfold toFloat?
  rw [heldDecimal_eq (by omega), Decimal.toDouble_eq_toBinary hcoefficient hexponent]

end RawNumber

end NodeRpc
