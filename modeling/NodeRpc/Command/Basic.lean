import NodeRpc.Command.Error
import NodeRpc.Schema.Codec

/-!
# Command types and commands

A `CommandType` declares a method with a table of fields, one per positional parameter.  A command
is a value of such a type: one entry per field, with `none` for an optional field that is not set.
Its *slots* are the encoded entries, with `none` for an absent one.

A command type may instead be kept *encoded*: its values are the slots themselves, and may be any.
Decoding such a command still decodes every slot by its field, and keeps the encoding.
-/

namespace NodeRpc

/-- The JSON shape of a field, for usage and help. -/
inductive FieldKind
  | string
  | numeric
  | boolean
  | array (element : FieldKind)
  | object
  deriving DecidableEq, Repr

namespace FieldKind

/-- What the elements of an array are called. -/
def plural : FieldKind → String
  | string => "strings"
  | numeric => "numbers"
  | boolean => "booleans"
  | array _ => "arrays"
  | object => "objects"

def text : FieldKind → String
  | string => "string"
  | numeric => "numeric"
  | boolean => "boolean"
  | array element => "array of " ++ element.plural
  | object => "object"

end FieldKind

/-- The shape of a schema's values. -/
def Schema.kind : Schema → FieldKind
  | string => .string
  | boolean => .boolean
  | integer _ => .numeric
  | float _ => .numeric
  | list element => .array element.kind
  | _ => .object

/-- A positional parameter. -/
structure Field where
  name : String
  schema : Schema
  kind : FieldKind
  optional : Bool
  /-- The default that decoding applies, as JSON text. -/
  defaultText : Option String
  /-- Usage text in place of the generated one. -/
  usage : Option String
  description : Option String
  deriving DecidableEq

/-- What an entry holds. -/
abbrev Entry : Bool → Type → Type
  | true, α => Option α
  | false, α => α

namespace Entry

variable {α : Type}

/-- An entry as a slot. -/
def encode (f : α → Json) : (optional : Bool) → Entry optional α → Option Json
  | true, some a => some (f a)
  | true, none => none
  | false, a => some (f a)

/-- A slot as an entry.  An optional entry is not set by an absent or null slot; to a required one
an absent slot is null. -/
def decode (f : Json → Decoded α) : (optional : Bool) → Option Json → Decoded (Entry optional α)
  | true, none => .ok none
  | true, some v => if v.isNull then .ok none else (f v).map some
  | false, slot => f (slot.getD .null)

/-- Equality of entries, from equality of what they hold. -/
def decEq (h : DecidableEq α) : (optional : Bool) → DecidableEq (Entry optional α)
  | true => inferInstanceAs (DecidableEq (Option α))
  | false => h

end Entry

namespace Field

/-- The field as messages name it. -/
def ref (f : Field) (index : Nat) : ParamRef := ⟨index, f.name, f.schema.typeName⟩

/-- Whether a value decodes as the field's type. -/
def accepts (f : Field) (v : Json) : Bool := f.schema.accepts v

end Field

/-! ## Rows of entries -/

/-- One entry per field. -/
def Row : List Field → Type
  | [] => Unit
  | f :: fs => Entry f.optional f.schema.Val × Row fs

namespace Row

/-- The slots of a row. -/
def slots : (fs : List Field) → Row fs → List (Option Json)
  | [], _ => []
  | f :: fs, row => Entry.encode f.schema.encode f.optional row.1 :: slots fs row.2

/-- The row that slots stand for, the first of them at place `index`; missing slots are absent. -/
def ofSlots (index : Nat) : (fs : List Field) → List (Option Json) → Except CodecError (Row fs)
  | [], _ => .ok ()
  | f :: fs, given => do
    let entry ← (Entry.decode f.schema.decode f.optional (given.headD none)).mapError
      (CodecError.badParam (f.ref index))
    return (entry, ← ofSlots (index + 1) fs given.tail)

def decEq : (fs : List Field) → DecidableEq (Row fs)
  | [] => inferInstanceAs (DecidableEq Unit)
  | f :: fs =>
    have := Entry.decEq f.schema.decEqVal f.optional
    have := decEq fs
    inferInstanceAs (DecidableEq (Entry f.optional f.schema.Val × Row fs))

@[simp] theorem slots_nil (row : Row []) : slots [] row = [] := rfl

@[simp] theorem length_slots (fs : List Field) (row : Row fs) :
    (slots fs row).length = fs.length := by
  induction fs with
  | nil => rfl
  | cons f fs ih => simp [slots, ih]

end Row

/-! ## Command types -/

/-- How the values of a command type are kept. -/
inductive Representation
  | typed
  | encoded
  deriving DecidableEq, Repr

/-- The declaration of a command.  A type is known by its declaration and by nothing else: of two
types with the same flags and fields it is the declared method that tells them apart, whatever names
they are registered under. -/
structure CommandType where
  /-- The identity of the type, and the name it is registered under unless another is given. -/
  method : String
  flags : UsageFlags
  description : Option String
  fields : List Field
  representation : Representation
  deriving DecidableEq

/-- The values that a representation keeps for a table. -/
abbrev Representation.Value (fields : List Field) : Representation → Type
  | typed => Row fields
  | encoded => List (Option Json)

namespace Representation

variable (fields : List Field)

/-- The slots of a value. -/
def slots : (r : Representation) → r.Value fields → List (Option Json)
  | typed, row => Row.slots fields row
  | encoded, given => given

/-- The value that slots stand for. -/
def ofSlots (given : List (Option Json)) : (r : Representation) → Except CodecError (r.Value fields)
  | typed => Row.ofSlots 0 fields given
  | encoded => do return Row.slots fields (← Row.ofSlots 0 fields given)

instance decEqValue : (r : Representation) → DecidableEq (r.Value fields)
  | typed => Row.decEq fields
  | encoded => inferInstanceAs (DecidableEq (List (Option Json)))

end Representation

namespace CommandType

/-- The values of a command type. -/
abbrev Value (t : CommandType) : Type := t.representation.Value t.fields

end CommandType

/-- A value of some command type. -/
structure Command where
  type : CommandType
  value : type.Value

namespace Command

/-- The encoded entries, in order. -/
def slots (c : Command) : List (Option Json) := c.type.representation.slots c.type.fields c.value

/-- The command of a type that slots stand for. -/
def ofSlots (t : CommandType) (given : List (Option Json)) : Except CodecError Command := do
  return ⟨t, ← t.representation.ofSlots t.fields given⟩

instance : DecidableEq Command := fun a b =>
  match a, b with
  | ⟨t, v⟩, ⟨u, w⟩ =>
    if h : t = u then by
      subst h
      exact if e : v = w then isTrue (by rw [e]) else isFalse (by simp [e])
    else isFalse fun e => h (congrArg Command.type e)

@[simp] theorem slots_typed (m : String) (fl : UsageFlags) (d : Option String) (fs : List Field)
    (row : Row fs) : slots ⟨⟨m, fl, d, fs, .typed⟩, row⟩ = Row.slots fs row := rfl

@[simp] theorem slots_encoded (m : String) (fl : UsageFlags) (d : Option String) (fs : List Field)
    (given : List (Option Json)) : slots ⟨⟨m, fl, d, fs, .encoded⟩, given⟩ = given := rfl

end Command

end NodeRpc
