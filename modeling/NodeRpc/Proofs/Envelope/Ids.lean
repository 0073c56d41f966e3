import NodeRpc.Envelope.Id
import NodeRpc.Proofs.Number.Rounding

/-!
# Ids and their encodings

An id is decoded from a JSON scalar that is no flag: integers are signed where they fit and unsigned
above, and every other number is a float.  So two kinds of ids are not read back as what they are: a
float that JSON cannot write, and an unsigned integer that a signed one stands for.

* `Id.Denotes`, `Id.decode_eq_ok`     the id that a value stands for, and that decoding finds it;
* `Id.settle`, `Id.decode_encode`     what an id is read back as;
* `Id.Survives`, `Id.settle_eq_self`  the ids that are read back as they are;
* `Id.encode_inj`, `Finite.bits_inj`  what tells such ids apart, and floats among them.
-/

namespace NodeRpc

theorem Integer.ofInt?_eq_none_iff {w : IntWidth} {i : Int} :
    Integer.ofInt? w i = none ↔ i < w.min ∨ w.max < i := by
  unfold Integer.ofInt?
  split
  · constructor
    · intro h
      cases h
    · intro h
      omega
  · constructor
    · intro _
      omega
    · intro _
      rfl

/-- The bit pattern of a finite double: the sign above the magnitude. -/
def Finite.bits (x : Finite .double) : Nat := x.magnitude + if x.negative then 1 <<< 63 else 0

theorem Finite.bits_inj {x y : Finite .double} : x.bits = y.bits ↔ x = y := by
  refine ⟨fun h => ?_, congrArg bits⟩
  obtain ⟨negative, magnitude, hx⟩ := x
  obtain ⟨negative', magnitude', hy⟩ := y
  have hlimit : FloatFormat.double.limit < 1 <<< 63 := by decide
  unfold bits at h
  cases negative <;> cases negative' <;>
    simp only [Bool.false_eq_true, if_true, if_false] at h
  · obtain rfl : magnitude = magnitude' := by omega
    rfl
  · omega
  · omega
  · obtain rfl : magnitude = magnitude' := by omega
    rfl

namespace Id

/-! ## Decoding -/

/-- Whether a JSON value stands for an id. -/
inductive Denotes : Json → Id → Prop
  | string (s : String) : Denotes (.string s) (.string s)
  | number (n : Integer .int64) : Denotes (.ofInteger n) (.number n)
  | unsigned (n : Integer .uint64) (h : IntWidth.int64.max < n.value) :
    Denotes (.ofInteger n) (.unsigned n)
  | float (x : Finite .double) : Denotes (.number (.float x)) (.float (.finite x))
  | null : Denotes .null .null

theorem decode_number (n : Integer .int64) : decode (.ofInteger n) = .ok (number n) := by
  unfold decode Json.ofInteger ofJsonNumber JsonNumber.ofInteger
  dsimp only
  rw [Integer.ofInt?_value]

theorem decode_signed {w : IntWidth} (h : w.max ≤ IntWidth.int64.max) (n : Integer w) :
    decode (.ofInteger n) = .ok (ofSigned h n) :=
  decode_number ⟨n.value, Int.le_trans w.int64_le_min n.lo, Int.le_trans n.hi h⟩

theorem decode_unsigned (n : Integer .uint64) : decode (.ofInteger n) = .ok (ofUnsigned n) := by
  unfold decode Json.ofInteger ofJsonNumber JsonNumber.ofInteger ofUnsigned
  dsimp only
  cases Integer.ofInt? .int64 n.value with
  | some i => rfl
  | none => rw [Integer.ofInt?_value]

theorem ofUnsigned_of_lt {n : Integer .uint64} (h : IntWidth.int64.max < n.value) :
    ofUnsigned n = unsigned n := by
  unfold ofUnsigned
  rw [Integer.ofInt?_eq_none_iff.2 (.inr h)]

theorem ofUnsigned_of_le {n : Integer .uint64} (h : n.value ≤ IntWidth.int64.max) :
    ∃ m : Integer .int64, m.value = n.value ∧ ofUnsigned n = number m := by
  have lo : IntWidth.int64.min ≤ n.value := Int.le_trans IntWidth.uint64.int64_le_min n.lo
  have hfits : Integer.ofInt? .int64 n.value = some ⟨n.value, lo, h⟩ :=
    Integer.ofInt?_eq_some_iff.2 rfl
  refine ⟨⟨n.value, lo, h⟩, rfl, ?_⟩
  unfold ofUnsigned
  rw [hfits]

/-- Every integer that JSON text can carry is signed, or unsigned above the signed range. -/
theorem denotes_integer (i : Int) (lo : -0x8000000000000000 ≤ i) (hi : i ≤ 0xffffffffffffffff) :
    ∃ x, Denotes (.number (.integer i lo hi)) x := by
  by_cases h : i ≤ IntWidth.int64.max
  · exact ⟨_, .number ⟨i, lo, h⟩⟩
  · have hpos : IntWidth.int64.max < i := by omega
    have hmin : IntWidth.uint64.min ≤ i := Int.le_trans IntWidth.int64.max_nonneg (by omega)
    exact ⟨_, .unsigned ⟨i, hmin, hi⟩ hpos⟩

theorem decode_of_denotes {v : Json} {x : Id} (h : Denotes v x) : decode v = .ok x := by
  cases h with
  | string s => rfl
  | number n => exact decode_number n
  | unsigned n h => rw [decode_unsigned, ofUnsigned_of_lt h]
  | float x => rfl
  | null => rfl

theorem decode_eq_ok {v : Json} {x : Id} : decode v = .ok x ↔ Denotes v x := by
  refine ⟨fun h => ?_, decode_of_denotes⟩
  have hsome : (∃ y, Denotes v y) → Denotes v x := by
    rintro ⟨y, hy⟩
    rw [decode_of_denotes hy] at h
    cases h
    exact hy
  cases v with
  | string s => exact hsome ⟨_, .string s⟩
  | null => exact hsome ⟨_, .null⟩
  | number n =>
    cases n with
    | integer i lo hi => exact hsome (denotes_integer i lo hi)
    | float y => exact hsome ⟨_, .float y⟩
  | bool b => cases h
  | array items => cases h
  | object members => cases h

theorem decode_eq_error {v : Json} :
    (∃ e, decode v = .error e) ↔ v.kind = .bool ∨ v.kind = .array ∨ v.kind = .object := by
  cases v with
  | number n => cases n <;> simp [decode, Json.kind]
  | null => simp [decode, Json.kind]
  | string s => simp [decode, Json.kind]
  | bool b => simp [decode, Json.kind]
  | array items => simp [decode, Json.kind]
  | object members => simp [decode, Json.kind]

/-! ## Decoding what was encoded -/

/-- What an id is read back as. -/
def settle : Id → Id
  | unsigned n => ofUnsigned n
  | float (.finite x) => float (.finite x)
  | float _ => null
  | x => x

theorem decode_encode (x : Id) : decode x.encode = .ok x.settle := by
  cases x with
  | string s => rfl
  | number n => exact decode_number n
  | unsigned n => exact decode_unsigned n
  | float y =>
    cases y with
    | finite y => rfl
    | infinite negative => rfl
    | nan => rfl
  | null => rfl

@[simp] theorem encode_settle (x : Id) : x.settle.encode = x.encode := by
  cases x with
  | string s => rfl
  | number n => rfl
  | unsigned n =>
    by_cases h : n.value ≤ IntWidth.int64.max
    · obtain ⟨m, hm, hsettle⟩ := ofUnsigned_of_le h
      show (ofUnsigned n).encode = Json.ofInteger n
      rw [hsettle]
      unfold encode Json.ofInteger JsonNumber.ofInteger
      simp only [hm]
    · show (ofUnsigned n).encode = Json.ofInteger n
      rw [ofUnsigned_of_lt (by omega)]
      rfl
  | float y =>
    cases y with
    | finite y => rfl
    | infinite negative => rfl
    | nan => rfl
  | null => rfl

/-- Whether an id is read back as it is: a float must be finite, and an unsigned integer above the
signed range. -/
def Survives : Id → Prop
  | unsigned n => IntWidth.int64.max < n.value
  | float x => x.IsFinite
  | _ => True

theorem settle_of_not_isFinite {x : Binary .double} (h : ¬ x.IsFinite) :
    settle (float x) = null := by
  cases x with
  | finite x => exact absurd (Binary.isFinite_finite x) h
  | infinite negative => rfl
  | nan => rfl

theorem settle_eq_self {x : Id} : x.settle = x ↔ x.Survives := by
  cases x with
  | string s => exact ⟨fun _ => trivial, fun _ => rfl⟩
  | number n => exact ⟨fun _ => trivial, fun _ => rfl⟩
  | unsigned n =>
    refine ⟨fun h => ?_, ofUnsigned_of_lt⟩
    rcases Int.lt_or_le IntWidth.int64.max n.value with hlt | hle
    · exact hlt
    · obtain ⟨m, _, hm⟩ := ofUnsigned_of_le hle
      change ofUnsigned n = unsigned n at h
      rw [hm] at h
      cases h
  | float y =>
    constructor
    · intro h
      cases y with
      | finite y => exact Binary.isFinite_finite y
      | infinite negative => cases h
      | nan => cases h
    · rintro ⟨z, rfl⟩
      rfl
  | null => exact ⟨fun _ => trivial, fun _ => rfl⟩

theorem decode_encode_iff {x : Id} : decode x.encode = .ok x ↔ x.Survives := by
  rw [decode_encode, Except.ok.injEq, settle_eq_self]

theorem survives_of_decode {v : Json} {x : Id} (h : decode v = .ok x) : x.Survives := by
  cases decode_eq_ok.1 h with
  | string s => trivial
  | number n => trivial
  | unsigned n hn => exact hn
  | float x => exact Binary.isFinite_finite x
  | null => trivial

theorem survives_ofUnsigned (n : Integer .uint64) : (ofUnsigned n).Survives :=
  survives_of_decode (decode_unsigned n)

theorem survives_ofOption {α : Type} {f : α → Id} (h : ∀ a, (f a).Survives) (o : Option α) :
    (ofOption f o).Survives := by
  cases o with
  | none => trivial
  | some a => exact h a

/-- Ids that survive are told apart by their encodings. -/
theorem encode_inj {x y : Id} (hx : x.Survives) (hy : y.Survives) :
    x.encode = y.encode ↔ x = y := by
  refine ⟨fun h => ?_, congrArg encode⟩
  have hdecode := decode_encode_iff.2 hx
  rw [h, decode_encode_iff.2 hy] at hdecode
  exact (Except.ok.inj hdecode).symm

end Id

end NodeRpc
