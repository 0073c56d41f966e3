import NodeRpc.Number.Binary
import NodeRpc.Number.Integer

/-!
# JSON values

Numbers keep what their text said: a whole number in the signed or unsigned 64-bit range is an
integer, every other one a finite double.  Objects are lists of members in the order they were
first written.

* `Json.Kind`       the shape of a value, as messages name it;
* `Json.put`        adds a member, or replaces the value of the one with that key in its place.
-/

namespace NodeRpc

/-- A JSON number. -/
inductive JsonNumber
  | integer (value : Int) (lo : -0x8000000000000000 ≤ value) (hi : value ≤ 0xffffffffffffffff)
  | float (value : Finite .double)
  deriving DecidableEq, Repr

namespace JsonNumber

/-- An integer of any width as a number. -/
def ofInteger {w : IntWidth} (n : Integer w) : JsonNumber :=
  integer n.value (Int.le_trans w.int64_le_min n.lo) (Int.le_trans n.hi w.max_le_uint64)

/-- The integer, if it fits the signed 64-bit range. -/
def int64? : JsonNumber → Option (Integer .int64)
  | integer i _ _ => Integer.ofInt? .int64 i
  | float _ => none

/-- The number as a double. -/
def toDouble : JsonNumber → Binary .double
  | integer i _ _ => .ofInt .double i
  | float x => .finite x

@[simp] theorem toDouble_float (x : Finite .double) : (float x).toDouble = .finite x := rfl

@[simp] theorem int64?_ofInteger (n : Integer .int64) : (ofInteger n).int64? = some n :=
  Integer.ofInt?_value n

end JsonNumber

/-- A JSON value. -/
inductive Json
  | null
  | bool (b : Bool)
  | number (n : JsonNumber)
  | string (s : String)
  | array (items : List Json)
  | object (members : List (String × Json))
  deriving Inhabited

namespace Json

/-- The shape of a value. -/
inductive Kind
  | null
  | bool
  | integer
  | float
  | string
  | array
  | object
  deriving DecidableEq, Repr

/-- The word that messages use for a shape. -/
def Kind.text : Kind → String
  | null => "null"
  | bool => "bool"
  | integer => "integer"
  | float => "float"
  | string => "string"
  | array => "array"
  | object => "object"

/-- The shape of a value. -/
def kind : Json → Kind
  | null => .null
  | bool _ => .bool
  | number (.integer ..) => .integer
  | number (.float _) => .float
  | string _ => .string
  | array _ => .array
  | object _ => .object

/-- A double as a number, or null if it is not finite. -/
def ofDouble : Binary .double → Json
  | .finite x => number (.float x)
  | _ => null

/-- An integer as a value. -/
def ofInteger {w : IntWidth} (n : Integer w) : Json := number (.ofInteger n)

/-- The signed 64-bit integer that a value is, if it is one. -/
def int64? : Json → Option (Integer .int64)
  | number n => n.int64?
  | _ => none

/-- The text that a value is, if it is one. -/
def string? : Json → Option String
  | string s => some s
  | _ => none

def isNull : Json → Bool
  | null => true
  | _ => false

theorem isNull_iff {v : Json} : v.isNull = true ↔ v = null := by cases v <;> simp [isNull]

/-- Sets the value of a key: in place if the key is there, at the end if not. -/
def put (key : String) (value : Json) : List (String × Json) → List (String × Json)
  | [] => [(key, value)]
  | (k, v) :: rest => if k = key then (k, value) :: rest else (k, v) :: put key value rest

/-! ## Equality -/

mutual

/-- Whether two values are the same, decided member by member. -/
def same : Json → Json → Bool
  | null, null => true
  | bool a, bool b => a == b
  | number a, number b => a == b
  | string a, string b => a == b
  | array xs, array ys => sameItems xs ys
  | object ms, object ns => sameMembers ms ns
  | _, _ => false

def sameItems : List Json → List Json → Bool
  | [], [] => true
  | x :: xs, y :: ys => same x y && sameItems xs ys
  | _, _ => false

def sameMembers : List (String × Json) → List (String × Json) → Bool
  | [], [] => true
  | (k, x) :: xs, (l, y) :: ys => k == l && same x y && sameMembers xs ys
  | _, _ => false

end

mutual

theorem same_iff : ∀ a b : Json, same a b = true ↔ a = b
  | null, b => by cases b <;> simp [same]
  | bool a, b => by cases b <;> simp [same]
  | number a, b => by cases b <;> simp [same]
  | string a, b => by cases b <;> simp [same]
  | array xs, b => by cases b <;> simp [same, sameItems_iff xs]
  | object ms, b => by cases b <;> simp [same, sameMembers_iff ms]

theorem sameItems_iff : ∀ a b : List Json, sameItems a b = true ↔ a = b
  | [], b => by cases b <;> simp [sameItems]
  | x :: xs, b => by cases b <;> simp [sameItems, same_iff x, sameItems_iff xs]

theorem sameMembers_iff : ∀ a b : List (String × Json), sameMembers a b = true ↔ a = b
  | [], b => by cases b <;> simp [sameMembers]
  | (k, x) :: xs, b => by
    rcases b with _ | ⟨⟨l, y⟩, ys⟩ <;> simp [sameMembers, same_iff x, sameMembers_iff xs]

end

instance : DecidableEq Json := fun a b => decidable_of_iff _ (same_iff a b)

end Json

end NodeRpc
