import NodeRpc.Schema.Error

/-!
# Request identifiers

An id is any JSON scalar but a flag; null marks a notification.  Integers are kept as signed where
they fit and as unsigned above that, so every integer that JSON text can carry is an id, and floats
are compared by sign and magnitude, so ids can be told apart exactly.
-/

namespace NodeRpc

/-- The identifier of a request. -/
inductive Id
  | string (s : String)
  | number (n : Integer .int64)
  | unsigned (n : Integer .uint64)
  | float (x : Binary .double)
  | null
  deriving DecidableEq, Repr

namespace Id

instance : Inhabited Id := ⟨null⟩

def isNull : Id → Bool
  | null => true
  | _ => false

/-- The id of an integer of a width within the signed 64-bit range. -/
def ofSigned {w : IntWidth} (h : w.max ≤ IntWidth.int64.max) (n : Integer w) : Id :=
  number ⟨n.value, Int.le_trans w.int64_le_min n.lo, Int.le_trans n.hi h⟩

/-- The id of an unsigned integer: a signed one where it fits. -/
def ofUnsigned (n : Integer .uint64) : Id :=
  match Integer.ofInt? .int64 n.value with
  | some i => number i
  | none => unsigned n

/-- The id that may be missing. -/
def ofOption {α : Type} (f : α → Id) : Option α → Id
  | some a => f a
  | none => null

def encode : Id → Json
  | string s => .string s
  | number n => .ofInteger n
  | unsigned n => .ofInteger n
  | float x => .ofDouble x
  | null => .null

/-- The id that a number is: signed, else unsigned, else a float. -/
def ofJsonNumber : JsonNumber → Id
  | .integer i lo hi =>
    match Integer.ofInt? .int64 i with
    | some n => number n
    | none => match Integer.ofInt? .uint64 i with
      | some n => unsigned n
      | none => float (JsonNumber.integer i lo hi).toDouble
  | .float x => float (.finite x)

def decode : Json → Decoded Id
  | .string s => .ok (string s)
  | .number n => .ok (ofJsonNumber n)
  | .null => .ok null
  | _ => .error (.union .id)

/-- A double for display. -/
def floatText : Binary .double → String
  | .finite x => x.toDisplay
  | .infinite negative => if negative then "-inf" else "inf"
  | .nan => "NaN"

/-- The id for display; a text stands between quotes as it is. -/
def text : Id → String
  | string s => "\"" ++ s ++ "\""
  | number n => toString n.value
  | unsigned n => toString n.value
  | float x => floatText x
  | null => "null"

end Id

end NodeRpc
