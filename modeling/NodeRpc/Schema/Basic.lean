import NodeRpc.Schema.SortedMap
import NodeRpc.Schema.Union

/-!
# Schemas

A `Schema` says what a parameter may hold; `Schema.Val` is the type of the values it stands for.
Records list their members in the order in which they are written, each with a `Rule` for when it
may be absent.
-/

namespace NodeRpc

/-- When a member of a record may be absent. -/
inductive Rule
  /-- Always there. -/
  | required
  /-- Always written; its absence means the default. -/
  | defaulted
  /-- May be unset; then it is left out. -/
  | optional
  /-- May be unset and is then left out, also at the end of a record that is given as a list. -/
  | lenient
  /-- May be unset; then it is written as null. -/
  | nullable
  /-- Left out when it is blank, which is what its absence means. -/
  | elided
  deriving DecidableEq, Repr

/-- What a member of a rule holds. -/
abbrev Rule.Slot : Rule → Type → Type
  | required, α => α
  | defaulted, α => α
  | elided, α => α
  | optional, α => Option α
  | lenient, α => Option α
  | nullable, α => Option α


mutual

/-- What a parameter, an element or a member may hold. -/
inductive Schema
  | any
  | string
  | boolean
  | integer (w : IntWidth)
  | float (f : FloatFormat)
  | list (element : Schema)
  | map (value : Schema)
  | choice (name first : String) (others : List String)
  | union (u : UnionType)
  | record (name : String) (members : Members)
  deriving DecidableEq

/-- The members of a record, in order. -/
inductive Members
  | nil
  | cons (key : String) (rule : Rule) (schema : Schema) (rest : Members)
  deriving DecidableEq

end

instance : Inhabited Schema := ⟨.any⟩

mutual

/-- The values of a schema. -/
def Schema.Val : Schema → Type
  | .any => Json
  | .string => String
  | .boolean => Bool
  | .integer w => Integer w
  | .float f => Binary f
  | .list element => List element.Val
  | .map value => SortedMap value.Val
  | .choice _ _ others => Fin (others.length + 1)
  | .union u => u.Val
  | .record _ members => members.Val

/-- The values of a record's members. -/
def Members.Val : Members → Type
  | .nil => Unit
  | .cons _ rule schema rest => rule.Slot schema.Val × rest.Val

end

namespace Schema

/-- The name of the type that a schema describes. -/
def typeName : Schema → String
  | any => "Value"
  | string => "String"
  | boolean => "bool"
  | integer w => w.text
  | float f => f.text
  | list element => "Vec<" ++ element.typeName ++ ">"
  | map value => "BTreeMap<String," ++ value.typeName ++ ">"
  | choice name _ _ => name
  | union u => u.typeName
  | record name _ => name

/-- Whether a value says nothing: an empty text or list, or the integer zero. -/
def isBlank : (s : Schema) → s.Val → Bool
  | string, v => String.isEmpty v
  | integer _, v => Integer.value v == 0
  | list _, v => List.isEmpty v
  | _, _ => false

end Schema

namespace Members

def count : Members → Nat
  | nil => 0
  | cons _ _ _ rest => rest.count + 1

/-- The keys, in order. -/
def keys : Members → List String
  | nil => []
  | cons key _ _ rest => key :: rest.keys

end Members

mutual

/-- The value that a record holds before anything is set. -/
def Schema.default : (s : Schema) → s.Val
  | .any => Json.null
  | .string => ""
  | .boolean => false
  | .integer _ => Integer.zero
  | .float _ => Binary.finite (.zero false)
  | .list _ => []
  | .map _ => SortedMap.empty
  | .choice _ _ others => (0 : Fin (others.length + 1))
  | .union u => u.default
  | .record _ members => members.default

/-- A record before anything is set. -/
def Members.default : (ms : Members) → ms.Val
  | .nil => ()
  | .cons _ .required schema rest => (schema.default, rest.default)
  | .cons _ .defaulted schema rest => (schema.default, rest.default)
  | .cons _ .elided schema rest => (schema.default, rest.default)
  | .cons _ .optional _ rest => (none, rest.default)
  | .cons _ .lenient _ rest => (none, rest.default)
  | .cons _ .nullable _ rest => (none, rest.default)

end

instance (s : Schema) : Inhabited s.Val := ⟨s.default⟩

/-! ## Equality of values -/

/-- Equality of what a member holds, from equality of its values. -/
def Rule.decEqSlot {α : Type} (h : DecidableEq α) : (r : Rule) → DecidableEq (r.Slot α)
  | required => h
  | defaulted => h
  | elided => h
  | optional => inferInstanceAs (DecidableEq (Option α))
  | lenient => inferInstanceAs (DecidableEq (Option α))
  | nullable => inferInstanceAs (DecidableEq (Option α))

mutual

def Schema.decEqVal : (s : Schema) → DecidableEq s.Val
  | .any => inferInstanceAs (DecidableEq Json)
  | .string => inferInstanceAs (DecidableEq String)
  | .boolean => inferInstanceAs (DecidableEq Bool)
  | .integer w => inferInstanceAs (DecidableEq (Integer w))
  | .float f => inferInstanceAs (DecidableEq (Binary f))
  | .list element =>
    have := element.decEqVal
    inferInstanceAs (DecidableEq (List element.Val))
  | .map value =>
    have := value.decEqVal
    inferInstanceAs (DecidableEq (SortedMap value.Val))
  | .choice _ _ others => inferInstanceAs (DecidableEq (Fin (others.length + 1)))
  | .union u => u.decEqVal
  | .record _ members => members.decEqVal

def Members.decEqVal : (ms : Members) → DecidableEq ms.Val
  | .nil => inferInstanceAs (DecidableEq Unit)
  | .cons _ rule schema rest =>
    have := rule.decEqSlot schema.decEqVal
    have := rest.decEqVal
    inferInstanceAs (DecidableEq (rule.Slot schema.Val × rest.Val))

end

instance (s : Schema) : DecidableEq s.Val := s.decEqVal

end NodeRpc
