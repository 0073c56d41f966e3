import NodeRpc.Envelope.Message
import NodeRpc.Registry.Basic

/-!
# Commands as requests

Parameters are positional.  Absent optional parameters at the end are left off; one before a present
parameter is written as null.  When a request is decoded, a missing parameter and a null for an
optional one are alike: the default applies if there is one.

`newCommand` builds a command from loosely typed arguments, as a command line would.  For a field
that is not a string, a string that reads as JSON which the field accepts stands for that JSON.
Defaults are not applied.
-/

namespace NodeRpc

/-! ## Slots and parameters -/

/-- The slots without the absent ones at the end. -/
def dropAbsent : List (Option Json) → List (Option Json)
  | [] => []
  | slot :: slots =>
    match slot, dropAbsent slots with
    | none, [] => []
    | slot, rest => slot :: rest

/-- The first required field whose slot is absent. -/
def unsetField? (index : Nat) : List Field → List (Option Json) → Option ParamRef
  | f :: fs, slot :: slots =>
    if slot.isNone && !f.optional then some (f.ref index) else unsetField? (index + 1) fs slots
  | _, _ => none

/-- The slots that parameters fill, with defaults for what is missing or null. -/
def fillSlots : List Field → List (Option Json) → List Json → List (Option Json)
  | [], _, _ => []
  | _ :: fs, defaults, [] => defaults.headD none :: fillSlots fs defaults.tail []
  | f :: fs, defaults, v :: params =>
    (if v.isNull && f.optional then defaults.headD none else some v)
      :: fillSlots fs defaults.tail params

/-! ## Loose arguments -/

/-- Whether an argument leaves an optional field unset. -/
def leavesUnset : Json → Bool
  | .null => true
  | .string s => s = "null"
  | _ => false

namespace Field

/-- The JSON that a string argument stands for, if the field takes it. -/
def reread? (f : Field) : Json → Option Json
  | .string text => if f.kind = .string then none else (Json.ofText? text).filter f.accepts
  | _ => none

/-- The slot that an argument fills. -/
def coerce (f : Field) (index : Nat) (v : Json) : Except CodecError (Option Json) :=
  if f.optional && leavesUnset v then .ok none
  else match f.reread? v with
    | some w => .ok (some w)
    | none =>
      if f.accepts v then .ok (some v) else .error (.badArgument (f.ref index) v.kind)

end Field

/-- The slots that arguments fill; those without an argument are absent. -/
def coerceArgs (index : Nat) : List Field → List Json → Except CodecError (List (Option Json))
  | [], _ => .ok []
  | _ :: fs, [] => do return none :: (← coerceArgs (index + 1) fs [])
  | f :: fs, v :: args => do
    let slot ← f.coerce index v
    return slot :: (← coerceArgs (index + 1) fs args)

namespace Descriptor

/-- The parameters that slots are written as. -/
def params (d : Descriptor) (slots : List (Option Json)) : Except CodecError (List Json) :=
  if slots.length ≠ d.fields.length then
    .error (.slotCount d.method slots.length d.fields.length)
  else match unsetField? 0 d.fields slots with
    | some p => .error (.unsetRequired p)
    | none => .ok ((dropAbsent slots).map fun slot => slot.getD .null)

end Descriptor

namespace Registry

/-- The request for a command, under the name of its type. -/
def marshalRequest (r : Registry) (version : Version) (id : Id) (c : Command) : Logged Request := do
  let d ← Logged.quiet (r.lookupType c)
  let params ← Logged.quiet (d.params c.slots)
  Logged.emit (.marshaled d.method params.length)
  return ⟨version, d.method, params, id⟩

/-- The text of the request for a command. -/
def marshal (r : Registry) (version : Version) (id : Id) (c : Command) : Logged String := do
  return (← r.marshalRequest version id c).toText

/-- What a request hands to the decoder: the type of its method, and the slots that its parameters
fill.  The event tells of a request whose method and number of parameters are right, also if a
parameter then does not decode. -/
def receive (r : Registry) (q : Request) : Logged (CommandType × List (Option Json)) := do
  let d ← Logged.quiet (r.lookup q.method)
  Logged.quiet (d.checkCount q.params.length)
  Logged.emit (.unmarshaled d.method q.params.length)
  return (d.type, fillSlots d.fields d.defaults q.params)

/-- The command that a request carries. -/
def unmarshalRequest (r : Registry) (q : Request) : Logged Command := do
  let (type, slots) ← r.receive q
  Logged.quiet (Command.ofSlots type slots)

/-- The request that bytes are. -/
def readRequest (bytes : Bytes) : Logged Request :=
  Logged.quiet ((Request.ofBytes bytes).mapError CodecError.badRequest)

/-- The command that the bytes of a request carry. -/
def unmarshal (r : Registry) (bytes : Bytes) : Logged Command := do
  r.unmarshalRequest (← readRequest bytes)

/-- The command of a method with loosely typed arguments. -/
def newCommand (r : Registry) (method : String) (args : List Json) : Logged Command := do
  let d ← Logged.quiet (r.lookup method)
  Logged.quiet (d.checkCount args.length)
  let slots ← Logged.quiet (coerceArgs 0 d.fields args)
  Logged.emit (.constructed method)
  Logged.quiet (Command.ofSlots d.type slots)

end Registry

end NodeRpc
