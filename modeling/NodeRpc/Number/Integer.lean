/-!
# Integers of fixed range

`Integer w` is an integer within the range of the width `w`.  There is no arithmetic on it: values
come from `Integer.ofInt?`, which refuses what does not fit, or `Integer.clamp`, which takes the
nearest value that does.
-/

namespace NodeRpc

/-- Widths of integers, signed and unsigned. -/
inductive IntWidth
  | int8
  | int16
  | int32
  | int64
  | uint8
  | uint16
  | uint32
  | uint64
  deriving DecidableEq, Repr

namespace IntWidth

/-- The least value. -/
def min : IntWidth → Int
  | int8 => -0x80
  | int16 => -0x8000
  | int32 => -0x80000000
  | int64 => -0x8000000000000000
  | uint8 | uint16 | uint32 | uint64 => 0

/-- The greatest value. -/
def max : IntWidth → Int
  | int8 => 0x7f
  | int16 => 0x7fff
  | int32 => 0x7fffffff
  | int64 => 0x7fffffffffffffff
  | uint8 => 0xff
  | uint16 => 0xffff
  | uint32 => 0xffffffff
  | uint64 => 0xffffffffffffffff

/-- The short name of a width. -/
def text : IntWidth → String
  | int8 => "i8"
  | int16 => "i16"
  | int32 => "i32"
  | int64 => "i64"
  | uint8 => "u8"
  | uint16 => "u16"
  | uint32 => "u32"
  | uint64 => "u64"

theorem min_nonpos (w : IntWidth) : w.min ≤ 0 := by cases w <;> decide

theorem max_nonneg (w : IntWidth) : 0 ≤ w.max := by cases w <;> decide

theorem int64_le_min (w : IntWidth) : -0x8000000000000000 ≤ w.min := by cases w <;> decide

theorem max_le_uint64 (w : IntWidth) : w.max ≤ 0xffffffffffffffff := by cases w <;> decide

end IntWidth

/-- An integer within the range of a width. -/
structure Integer (w : IntWidth) where
  value : Int
  lo : w.min ≤ value
  hi : value ≤ w.max
  deriving DecidableEq, Repr

namespace Integer

variable {w : IntWidth}

/-- Zero is in every range. -/
def zero : Integer w := ⟨0, w.min_nonpos, w.max_nonneg⟩

instance : Inhabited (Integer w) := ⟨zero⟩

@[ext] theorem ext {a b : Integer w} (h : a.value = b.value) : a = b := by
  cases a; cases b; cases h; rfl

/-- The integer, if it is in range. -/
def ofInt? (w : IntWidth) (i : Int) : Option (Integer w) :=
  if h : w.min ≤ i ∧ i ≤ w.max then some ⟨i, h.1, h.2⟩ else none

/-- The value in range that is nearest to an integer. -/
def clamp (w : IntWidth) (i : Int) : Integer w :=
  ⟨Max.max w.min (Min.min w.max i), Int.le_max_left _ _,
    Int.max_le.2 ⟨Int.le_trans w.min_nonpos w.max_nonneg, Int.min_le_left _ _⟩⟩

theorem ofInt?_eq_some_iff {i : Int} {n : Integer w} : ofInt? w i = some n ↔ n.value = i := by
  unfold ofInt?
  constructor
  · intro h
    split at h
    · cases h; rfl
    · cases h
  · intro h
    subst h
    rw [dif_pos ⟨n.lo, n.hi⟩]

@[simp] theorem ofInt?_value (n : Integer w) : ofInt? w n.value = some n :=
  ofInt?_eq_some_iff.2 rfl

end Integer

end NodeRpc
