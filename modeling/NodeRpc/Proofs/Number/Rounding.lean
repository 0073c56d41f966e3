import Mathlib.Algebra.Group.Nat.Defs
import NodeRpc.Json.Basic

/-!
# Rounding stays in range

`FloatFormat.nearest` splits a quotient into a shift and a significand of at most two binades.  So
the magnitude it gives is bounded by the shift alone:

* `FloatFormat.nearest_le`   a quotient below `2 ^ (precision + k)` has a magnitude of at most
                             `k + 2` binades;
* `Binary.isFinite_ofInt`    every integer of 64 bits is finite in both formats.
-/

namespace NodeRpc

namespace FloatFormat

theorem divideToEven_eq (n d : Nat) :
    divideToEven n d = if 2 * (n % d) < d then n / d
      else if d < 2 * (n % d) then n / d + 1 else n / d + n / d % 2 := rfl

theorem divideToEven_le (n d : Nat) : divideToEven n d ≤ n / d + 1 := by
  rw [divideToEven_eq]
  split
  · omega
  · split <;> omega

theorem two_mul_binade (f : FloatFormat) : 2 * f.binade = 2 ^ f.precision := by
  cases f <;> rfl

theorem precision_pos (f : FloatFormat) : 1 ≤ f.precision := by cases f <;> decide

theorem div_shift_lt (p q : Nat) : q / 2 ^ (q.log2 + 1 - p) < 2 ^ p := by
  rw [Nat.div_lt_iff_lt_mul (Nat.two_pow_pos _), ← Nat.pow_add]
  have hq : q < 2 ^ (q.log2 + 1) := Nat.lt_log2_self
  have hp : 2 ^ (q.log2 + 1) ≤ 2 ^ (p + (q.log2 + 1 - p)) :=
    Nat.pow_le_pow_right (by decide) (by omega)
  exact Nat.lt_of_lt_of_le hq hp

/-- The shift of a quotient below `2 ^ (p + k)` is at most `k`. -/
theorem shift_le {p q k : Nat} (hp : 1 ≤ p) (hq : q < 2 ^ (p + k)) : q.log2 + 1 - p ≤ k := by
  by_cases h : q = 0
  · subst h
    rw [Nat.log2_zero]
    omega
  · have hlog : q.log2 < p + k := (Nat.log2_lt h).2 hq
    omega

theorem nearest_le (f : FloatFormat) {n d k : Nat}
    (h : n * f.unitsPerOne / d < 2 ^ (f.precision + k)) : f.nearest n d ≤ (k + 2) * f.binade := by
  have hshift := shift_le f.precision_pos h
  have hsmall := div_shift_lt f.precision (n * f.unitsPerOne / d)
  unfold nearest
  simp only []
  generalize (n * f.unitsPerOne / d).log2 + 1 - f.precision = shift at hshift hsmall ⊢
  have hround := divideToEven_le (n * f.unitsPerOne) (d <<< shift)
  rw [Nat.shiftLeft_eq, ← Nat.div_div_eq_div_mul] at hround
  have hmul : shift * f.binade ≤ k * f.binade := Nat.mul_le_mul_right _ hshift
  have htwo := f.two_mul_binade
  rw [Nat.shiftLeft_eq, Nat.add_mul]
  omega

theorem unitsPerOne_eq (f : FloatFormat) : f.unitsPerOne = 2 ^ f.places := by
  rw [unitsPerOne, Nat.shiftLeft_eq, Nat.one_mul]

/-- Quotients up to twice the unsigned 64-bit range round to finite magnitudes. -/
theorem nearest_lt_limit (f : FloatFormat) {n d : Nat} (hd : 0 < d) (h : n < 2 ^ 65 * d) :
    f.nearest n d < f.limit := by
  have hplaces : 65 + f.places = f.precision + (65 + f.places - f.precision) := by
    cases f <;> rfl
  have hscaled : n * f.unitsPerOne / d < 2 ^ (f.precision + (65 + f.places - f.precision)) := by
    rw [← hplaces, Nat.pow_add, ← unitsPerOne_eq, Nat.div_lt_iff_lt_mul hd, Nat.mul_right_comm]
    exact Nat.mul_lt_mul_of_pos_right h f.unitsPerOne_pos
  have hlimit : (65 + f.places - f.precision + 2) * f.binade < f.limit := by
    cases f <;> decide
  exact Nat.lt_of_le_of_lt (f.nearest_le hscaled) hlimit

theorem nearest_integer_lt (f : FloatFormat) {n : Nat} (h : n < 2 ^ 65) :
    f.nearest n 1 < f.limit := f.nearest_lt_limit Nat.one_pos h

end FloatFormat

namespace Binary

variable {f : FloatFormat}

def IsFinite (x : Binary f) : Prop := ∃ y, x = .finite y

theorem isFinite_finite (x : Finite f) : IsFinite (finite x) := ⟨x, rfl⟩

theorem isFinite_ofRatio {negative : Bool} {n d : Nat} (h : f.nearest n d < f.limit) :
    IsFinite (ofRatio f negative n d) := by
  unfold ofRatio
  rw [dif_pos h]
  exact isFinite_finite _

/-- Every integer that JSON text can carry is finite. -/
theorem isFinite_ofInt {i : Int} (lo : -0x8000000000000000 ≤ i) (hi : i ≤ 0xffffffffffffffff) :
    IsFinite (ofInt f i) := by
  apply isFinite_ofRatio
  apply f.nearest_integer_lt
  omega

end Binary

end NodeRpc
