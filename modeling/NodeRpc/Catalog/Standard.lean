import NodeRpc.Catalog.Lookup
import NodeRpc.Registry.Codec
import NodeRpc.Registry.Help

/-!
# The standard registry

All families of the catalog in one registry, and the operations on it.
-/

namespace NodeRpc

namespace Standard

/-- The registry of every command type, or the first refusal. -/
def registry : Except CodecError Registry := Registry.ofTypes Catalog.types

/-- The request for a command. -/
def marshalRequest (version : Version) (id : Id) (c : Command) : Except CodecError Request := do
  ((← registry).marshalRequest version id c).result

/-- The text of the request for a command. -/
def marshal (version : Version) (id : Id) (c : Command) : Except CodecError String := do
  return (← marshalRequest version id c).toText

/-- The command that a request carries. -/
def unmarshalRequest (q : Request) : Except CodecError Command := do
  ((← registry).unmarshalRequest q).result

/-- The command that the bytes of a request carry. -/
def unmarshal (bytes : Bytes) : Except CodecError Command := do
  ((← registry).unmarshal bytes).result

/-- The command of a method with loosely typed arguments. -/
def newCommand (method : String) (args : List Json) : Except CodecError Command := do
  ((← registry).newCommand method args).result

def usageText (method : String) : Except CodecError String := do (← registry).usageText method

def usageFlags (method : String) : Except CodecError UsageFlags := do
  (← registry).usageFlags method

def methodOf (c : Command) : Except CodecError String := do (← registry).methodOf c

def methodNames : Except CodecError (List String) := do return (← registry).methodNames

def helpText (method : String) : Except CodecError String := do (← registry).helpText method

end Standard

end NodeRpc
