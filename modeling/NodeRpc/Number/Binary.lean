/-!
# Binary floating point, exactly

A finite value is a sign and a *magnitude*: its place among the non-negative values of its format,
counted from zero.  Every such value is a whole number of *units*, the smallest step of the format,
so all arithmetic here is on natural numbers.

* `FloatFormat.units m`       the `m`-th value, in units;
* `FloatFormat.nearest n d`   the magnitude nearest to `n / d`, ties to the even one;
* `Binary.ofRatio`            a rounded quotient, infinite when it is out of range;
* `Binary.truncated`, `Binary.rounded`   the integer toward zero, and the nearest (halves away).
-/

namespace NodeRpc

/-- The two interchange formats that typed values use. -/
inductive FloatFormat
  | single
  | double
  deriving DecidableEq, Repr

namespace FloatFormat

/-- Bits of a full significand. -/
def precision : FloatFormat → Nat
  | single => 24
  | double => 53

/-- Binary places after the point. -/
def places : FloatFormat → Nat
  | single => 149
  | double => 1074

/-- How many units make one. -/
def unitsPerOne (f : FloatFormat) : Nat := 1 <<< f.places

/-- How many magnitudes are finite. -/
def limit : FloatFormat → Nat
  | single => 255 <<< 23
  | double => 2047 <<< 52

/-- Magnitudes in one binade. -/
def binade (f : FloatFormat) : Nat := 1 <<< (f.precision - 1)

/-- The value of a magnitude in units: the first two binades step by one unit, each later one by
twice the step before it. -/
def units (f : FloatFormat) (magnitude : Nat) : Nat :=
  if magnitude < f.binade then magnitude
  else (f.binade + magnitude % f.binade) <<< (magnitude / f.binade - 1)

/-- The quotient rounded to a nearest integer, a half to the even one. -/
def divideToEven (n d : Nat) : Nat :=
  let q := n / d
  let twice := 2 * (n % d)
  if twice < d then q else if d < twice then q + 1 else q + q % 2

/-- The magnitude nearest to `n / d`, a tie to the even one.  A significand that rounds up to a
full binade carries into the next one by itself. -/
def nearest (f : FloatFormat) (n d : Nat) : Nat :=
  let scaled := n * f.unitsPerOne
  let shift := (scaled / d).log2 + 1 - f.precision
  shift * f.binade + divideToEven scaled (d <<< shift)

/-- The whole number that the value nearest to a natural number is. -/
def nearestWhole (f : FloatFormat) (n : Nat) : Nat := f.units (f.nearest n 1) / f.unitsPerOne

theorem unitsPerOne_pos (f : FloatFormat) : 0 < f.unitsPerOne := by
  rw [unitsPerOne, Nat.shiftLeft_eq, Nat.one_mul]
  exact Nat.two_pow_pos _

theorem limit_pos (f : FloatFormat) : 0 < f.limit := by cases f <;> decide

end FloatFormat

/-- A finite value of a format. -/
structure Finite (f : FloatFormat) where
  negative : Bool
  magnitude : Nat
  isLt : magnitude < f.limit
  deriving DecidableEq, Repr

namespace Finite

variable {f : FloatFormat}

/-- Zero, of either sign. -/
def zero (negative : Bool) : Finite f := ⟨negative, 0, f.limit_pos⟩

instance : Inhabited (Finite f) := ⟨zero false⟩

/-- The distance from zero, in units. -/
def units (x : Finite f) : Nat := f.units x.magnitude

/-- A natural number under the sign of `x`. -/
def signed (x : Finite f) (n : Nat) : Int := if x.negative then -(n : Int) else n

/-- The integer part. -/
def truncated (x : Finite f) : Int := x.signed (x.units / f.unitsPerOne)

/-- The nearest integer, halves away from zero. -/
def rounded (x : Finite f) : Int :=
  x.signed ((2 * x.units + f.unitsPerOne) / (2 * f.unitsPerOne))

end Finite

/-- A value of a format: finite, infinite, or no number. -/
inductive Binary (f : FloatFormat)
  | finite (x : Finite f)
  | infinite (negative : Bool)
  | nan
  deriving DecidableEq, Repr

namespace Binary

variable {f : FloatFormat}

instance : Inhabited (Binary f) := ⟨finite default⟩

/-- The value nearest to `± n / d`, infinite when that is past the largest finite one. -/
def ofRatio (f : FloatFormat) (negative : Bool) (n d : Nat) : Binary f :=
  if h : f.nearest n d < f.limit then finite ⟨negative, f.nearest n d, h⟩ else infinite negative

/-- The value nearest to an integer. -/
def ofInt (f : FloatFormat) (i : Int) : Binary f := ofRatio f (i < 0) i.natAbs 1

/-- The value times a natural number, rounded. -/
def scale (k : Nat) : Binary f → Binary f
  | finite x => ofRatio f x.negative (x.units * k) f.unitsPerOne
  | infinite s => infinite s
  | nan => nan

/-- The value divided by a natural number, rounded. -/
def divide (k : Nat) : Binary f → Binary f
  | finite x => ofRatio f x.negative x.units (f.unitsPerOne * k)
  | infinite s => infinite s
  | nan => nan

/-- The same value in another format, rounded if that is narrower. -/
def convert (g : FloatFormat) : Binary f → Binary g
  | finite x => ofRatio g x.negative x.units f.unitsPerOne
  | infinite s => infinite s
  | nan => nan

/-- A double in a format: itself, or rounded to the narrower one. -/
def ofDouble : (f : FloatFormat) → Binary .double → Binary f
  | .double, x => x
  | .single, x => x.convert .single

/-- A value of a format as a double, exactly. -/
def toDouble : (f : FloatFormat) → Binary f → Binary .double
  | .double, x => x
  | .single, x => x.convert .double

/-- Zero of either sign. -/
def isZero : Binary f → Bool
  | finite x => x.magnitude = 0
  | _ => false

/-- The value itself, if it is finite. -/
def finite? : Binary f → Option (Finite f)
  | finite x => some x
  | _ => none

/-- An integer reading of a value, held between two bounds; no number counts as zero. -/
def clampWith (read : Finite f → Int) (lo hi : Int) : Binary f → Int
  | finite x => max lo (min hi (read x))
  | infinite true => lo
  | infinite false => hi
  | nan => 0

@[simp] theorem finite?_finite (x : Finite f) : (finite x).finite? = some x := rfl
@[simp] theorem finite?_infinite (s : Bool) : (infinite s : Binary f).finite? = none := rfl
@[simp] theorem finite?_nan : (nan : Binary f).finite? = none := rfl

end Binary

end NodeRpc
