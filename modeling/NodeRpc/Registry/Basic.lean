import NodeRpc.Command.Basic
import NodeRpc.Json.Reader
import NodeRpc.Logging.Event

/-!
# The registry

A registry maps method names to descriptors and command types to method names.  Registering a type
checks its table first; a name that is taken is refused, while a type that is registered again under
another name is from then on known by the new one.

* `Registry.registerAs`   one more method, or the reason why not;
* `Registry.descriptor?`  the descriptor of a name;
* `Registry.lookupType`   the descriptor under which a command's type is known.
-/

namespace NodeRpc

/-- What is known about a registered method. -/
structure Descriptor where
  method : String
  flags : UsageFlags
  type : CommandType
  /-- The decoded text of each field's default. -/
  defaults : List (Option Json)
  /-- How many parameters must be given. -/
  required : Nat

namespace Descriptor

def fields (d : Descriptor) : List Field := d.type.fields

/-- Refuses a number of parameters that is out of range. -/
def checkCount (d : Descriptor) (received : Nat) : Except CodecError Unit :=
  if d.required ≤ received ∧ received ≤ d.fields.length then .ok ()
  else .error (.paramCount d.required d.fields.length received)

end Descriptor

/-! ## Checking a table -/

/-- What the fields before one leave to check it against. -/
structure FieldContext where
  index : Nat
  names : List String
  optional : Bool

namespace FieldContext

/-- The context of a table's first field. -/
def start : FieldContext := ⟨0, [], false⟩

/-- The context after a field. -/
def next (c : FieldContext) (f : Field) : FieldContext :=
  ⟨c.index + 1, f.name :: c.names, c.optional || f.optional⟩

end FieldContext

namespace Field

/-- The value of a default text, if it is one that the field accepts. -/
def defaultValue? (f : Field) (text : String) : Option Json :=
  (Json.ofText? text).filter f.accepts

/-- A field's default, or the first thing that is wrong with the field. -/
def check (f : Field) (c : FieldContext) : Except CodecError (Option Json) :=
  if f.name = "" then .error (.unnamedField c.index)
  else if f.name ∈ c.names then .error (.repeatedField (f.ref c.index))
  else if !f.optional && c.optional then .error (.requiredAfterOptional (f.ref c.index))
  else match f.defaultText with
    | none => .ok none
    | some text =>
      if !f.optional then .error (.defaultOfRequired (f.ref c.index))
      else match f.defaultValue? text with
        | some v => .ok (some v)
        | none => .error (.badDefault (f.ref c.index))

end Field

/-- The defaults of a table, or the first thing that is wrong with it. -/
def checkFields (c : FieldContext) : List Field → Except CodecError (List (Option Json))
  | [] => .ok []
  | f :: fs => do
    let default ← f.check c
    return default :: (← checkFields (c.next f) fs)

/-! ## Registries -/

/-- Registered methods, in order, and the name of each registered type, the latest first. -/
structure Registry where
  methods : List Descriptor
  /-- A type is looked up by its whole declaration, so types that differ in the declared method
  alone have names of their own. -/
  names : List (CommandType × String)

namespace Registry

/-- Nothing registered. -/
def empty : Registry := ⟨[], []⟩

instance : Inhabited Registry := ⟨empty⟩

/-- The descriptor of a method. -/
def descriptor? (r : Registry) (method : String) : Option Descriptor :=
  r.methods.find? fun d => d.method = method

def has (r : Registry) (method : String) : Bool := (r.descriptor? method).isSome

def size (r : Registry) : Nat := r.methods.length

/-- The registered names, ascending by their bytes. -/
def methodNames (r : Registry) : List String :=
  (r.methods.map Descriptor.method).mergeSort fun a b => decide (utf8 a ≤ utf8 b)

/-- The descriptor of a method, or the refusal of an unknown one. -/
def lookup (r : Registry) (method : String) : Except CodecError Descriptor :=
  match r.descriptor? method with
  | some d => .ok d
  | none => .error (.unregisteredMethod method)

/-- The descriptor under which a command's type is registered. -/
def lookupType (r : Registry) (c : Command) : Except CodecError Descriptor :=
  match (r.names.lookup c.type).bind r.descriptor? with
  | some d => .ok d
  | none => .error (.unregisteredType c.type.method)

/-- The name under which a command's type is registered. -/
def methodOf (r : Registry) (c : Command) : Except CodecError String :=
  (r.lookupType c).map Descriptor.method

def usageFlags (r : Registry) (method : String) : Except CodecError UsageFlags :=
  (r.lookup method).map Descriptor.flags

/-- Adds a descriptor, and its name as that of its type. -/
def add (r : Registry) (d : Descriptor) : Registry :=
  ⟨r.methods ++ [d], (d.type, d.method) :: r.names⟩

/-- Registers a type under a name. -/
def registerAs (r : Registry) (t : CommandType) (method : String) (flags : UsageFlags) :
    Logged Registry :=
  if r.has method then .quiet (.error (.duplicateMethod method))
  else if flags.hasUnknownBits then .quiet (.error (.unknownFlags method flags))
  else do
    let defaults ← Logged.quiet (checkFields .start t.fields)
    let required := t.fields.countP fun f => !f.optional
    Logged.emit (.registered method t.fields.length required flags)
    return r.add ⟨method, flags, t, defaults, required⟩

/-- Registers a type under the name and the flags that it declares. -/
def register (r : Registry) (t : CommandType) : Logged Registry := r.registerAs t t.method t.flags

/-- Registers types in order, up to the first that is refused. -/
def registerAll (r : Registry) : List CommandType → Logged Registry
  | [] => pure r
  | t :: ts => do registerAll (← r.register t) ts

/-- The registry of some types, or the first refusal. -/
def ofTypes (ts : List CommandType) : Except CodecError Registry := (empty.registerAll ts).result

/-- The finished registry. -/
def build (r : Registry) : Logged Registry := do
  Logged.emit (.built r.size)
  return r

end Registry

end NodeRpc
