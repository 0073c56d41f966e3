import NodeRpc.Number.Binary

/-!
# Decimal numbers

`Decimal` is `coefficient * 10 ^ exponent`.  It is read in two ways: `Decimal.toBinary` gives the
nearest value, `Decimal.toDouble` a double that double arithmetic reaches from the coefficient.
`Finite.shortest` finds the decimal with the fewest digits whose nearest value is the given one, the
nearest of those if there are several, and of two equally near the one that a `Tie` names.

The search walks the grids `10 ^ k` from coarse to fine.  A value's neighbours on a grid are the
only candidates: whenever the interval that reads back holds a grid point, it holds one of them.
-/

namespace NodeRpc

/-- A non-negative decimal number. -/
structure Decimal where
  coefficient : Nat
  exponent : Int
  deriving DecidableEq, Repr

/-- The power of ten with an exponent; one if that is negative. -/
def tens (exponent : Int) : Nat := Nat.pow 10 exponent.toNat

namespace Decimal

/-- The coefficient's digits, most significant first. -/
def digits (d : Decimal) : List Char := Nat.toDigits 10 d.coefficient

/-- The exponent of the first digit. -/
def leading (d : Decimal) : Int := d.exponent + d.digits.length - 1

/-- The nearest value of a format.  A decimal whose first digit lies beyond all finite values, or
below half the smallest one, is decided without building the power of ten. -/
def toBinary (f : FloatFormat) (negative : Bool) (d : Decimal) : Binary f :=
  if d.coefficient = 0 then .finite (.zero negative)
  else if 400 < d.leading then .infinite negative
  else if d.leading < -400 then .finite (.zero negative)
  else .ofRatio f negative (d.coefficient * tens d.exponent) (tens (-d.exponent))

end Decimal

namespace Binary

/-- The largest power of ten that is finite as a double. -/
def maxTens : Nat := 308

/-- The double nearest to `10 ^ k`, a whole number. -/
def tensFactor (k : Nat) : Nat := FloatFormat.double.nearestWhole (Nat.pow 10 k)

/-- A double divided by `10 ^ k`, by `10 ^ 308` at a time.  Every division rounds, and zero is not
divided further. -/
def divideTens (x : Binary .double) (k : Nat) : Binary .double :=
  if k ≤ maxTens then x.divide (tensFactor k)
  else if x.isZero then x
  else (x.divide (tensFactor maxTens)).divideTens (k - maxTens)
termination_by k
decreasing_by
  have hpositive : 0 < maxTens := by decide
  omega

end Binary

namespace Decimal

/-- A double near the decimal: the coefficient, the power of ten and the product or quotient of the
two are each rounded, so it may be a neighbour of the nearest one.  It is infinite when the product
is past all doubles, or the power of ten alone. -/
def toDouble (negative : Bool) (d : Decimal) : Binary .double :=
  let x := Binary.ofRatio .double negative d.coefficient 1
  if d.exponent < 0 then x.divideTens d.exponent.natAbs
  else if d.exponent ≤ Binary.maxTens then x.scale (Binary.tensFactor d.exponent.natAbs)
  else if d.coefficient = 0 then x
  else .infinite negative

end Decimal

/-- Which of two equally near multiples is taken. -/
inductive Tie
  | toEven
  | up
  deriving DecidableEq, Repr

/-- Of two equally near multiples, the `c`-th and the next, the lower one is taken. -/
def Tie.takesLower : Tie → Nat → Bool
  | toEven, c => c % 2 = 0
  | up, _ => false

namespace Finite

/-- The multiple of `step` nearest to `v` among its two neighbours that satisfy `within`. -/
def neighbour? (tie : Tie) (within : Nat → Bool) (v step : Nat) : Option Nat :=
  let c := v / step
  let below := within (c * step)
  let above := within ((c + 1) * step)
  let twice := 2 * (v % step)
  if below && (!above || twice < step || (twice = step && tie.takesLower c)) then some c
  else if above then some (c + 1)
  else none

/-- The point on the coarsest grid `10 ^ (start - i)`, `i < fuel`, that has one that reads back as
magnitude `m`. -/
def shortestFrom (tie : Tie) (f : FloatFormat) (m : Nat) (start : Int) : Nat → Decimal
  | 0 => ⟨0, 0⟩
  | fuel + 1 =>
    let finer := tens (-start)
    let low := (f.units (m - 1) + f.units m) * finer
    let high := (f.units m + f.units (m + 1)) * finer
    let within (x : Nat) : Bool :=
      if m % 2 = 0 then decide (low ≤ x ∧ x ≤ high) else decide (low < x ∧ x < high)
    match neighbour? tie within (2 * f.units m * finer) (2 * f.unitsPerOne * tens start) with
    | some c => ⟨c, start⟩
    | none => shortestFrom tie f m (start - 1) fuel

/-- The shortest decimal that reads back as the value, without its sign. -/
def shortest {f : FloatFormat} (tie : Tie) (x : Finite f) : Decimal :=
  if x.magnitude = 0 then ⟨0, 0⟩
  else
    let whole := (Nat.toDigits 10 (x.units / f.unitsPerOne)).length
    shortestFrom tie f x.magnitude whole (whole + 400)

end Finite

end NodeRpc
