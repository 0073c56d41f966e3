import NodeRpc.Command.Flags
import NodeRpc.Schema.Error

/-!
# Failures of the registry and the codec

`CodecError` names the cause of a failure.  Its `code` is the kind by which callers branch, its
`message` the text they forward.  `RpcError` is the error object of a response.
-/

namespace NodeRpc

/-- The kinds of failure.  Known kinds are numbered from zero in this order. -/
inductive ErrorCode
  | duplicateMethod
  | invalidUsageFlags
  | invalidType
  | embeddedType
  | unexportedField
  | unsupportedFieldType
  | nonOptionalField
  | nonOptionalDefault
  | mismatchedDefault
  | unregisteredMethod
  | numParams
  | missingDescription
  | unknown (number : UInt16)
  deriving DecidableEq, Repr

namespace ErrorCode

/-- The known kinds by number. -/
def known : List ErrorCode :=
  [duplicateMethod, invalidUsageFlags, invalidType, embeddedType, unexportedField,
    unsupportedFieldType, nonOptionalField, nonOptionalDefault, mismatchedDefault,
    unregisteredMethod, numParams, missingDescription]

/-- The kind with a number. -/
def ofNumber (n : UInt16) : ErrorCode := known.getD n.toNat (unknown n)

/-- The number of a kind. -/
def number : ErrorCode → UInt16
  | unknown n => n
  | code => UInt16.ofNat (known.idxOf code)

def isUnknown : ErrorCode → Bool
  | unknown _ => true
  | _ => false

def text : ErrorCode → String
  | duplicateMethod => "ErrDuplicateMethod"
  | invalidUsageFlags => "ErrInvalidUsageFlags"
  | invalidType => "ErrInvalidType"
  | embeddedType => "ErrEmbeddedType"
  | unexportedField => "ErrUnexportedField"
  | unsupportedFieldType => "ErrUnsupportedFieldType"
  | nonOptionalField => "ErrNonOptionalField"
  | nonOptionalDefault => "ErrNonOptionalDefault"
  | mismatchedDefault => "ErrMismatchedDefault"
  | unregisteredMethod => "ErrUnregisteredMethod"
  | numParams => "ErrNumParams"
  | missingDescription => "ErrMissingDescription"
  | unknown n => "Unknown ErrorCode (" ++ toString n ++ ")"

end ErrorCode

/-- Why text is not a message: it is no JSON, or JSON of another form. -/
inductive ReadError
  | malformed
  | mismatch (cause : DecodeError)
  deriving DecidableEq, Repr

/-- A parameter, as messages name it: its place from zero, its name and its type. -/
structure ParamRef where
  index : Nat
  name : String
  typeName : String
  deriving DecidableEq, Repr

namespace ParamRef

/-- The number and name of a parameter. -/
def label (p : ParamRef) : String :=
  "parameter #" ++ toString (p.index + 1) ++ " '" ++ p.name ++ "'"

end ParamRef

/-- Why a registration, a lookup, a conversion or a help text failed. -/
inductive CodecError
  | duplicateMethod (method : String)
  | unknownFlags (method : String) (flags : UsageFlags)
  | unnamedField (index : Nat)
  | repeatedField (field : ParamRef)
  | requiredAfterOptional (field : ParamRef)
  | defaultOfRequired (field : ParamRef)
  | badDefault (field : ParamRef)
  | unregisteredMethod (method : String)
  | unregisteredType (method : String)
  | paramCount (required total received : Nat)
  | badParam (param : ParamRef) (cause : DecodeError)
  | badArgument (param : ParamRef) (given : Json.Kind)
  | slotCount (method : String) (given declared : Nat)
  | unsetRequired (param : ParamRef)
  | badRequest (cause : ReadError)
  | undescribedMethod (method : String)
  | undescribedParam (method : String) (param : ParamRef)
  deriving DecidableEq, Repr

namespace CodecError

def code : CodecError → ErrorCode
  | duplicateMethod _ => .duplicateMethod
  | unknownFlags .. => .invalidUsageFlags
  | unnamedField _ => .unexportedField
  | repeatedField _ => .embeddedType
  | requiredAfterOptional _ => .nonOptionalField
  | defaultOfRequired _ => .nonOptionalDefault
  | badDefault _ => .mismatchedDefault
  | unregisteredMethod _ => .unregisteredMethod
  | unregisteredType _ => .unregisteredMethod
  | paramCount .. => .numParams
  | badParam .. => .invalidType
  | badArgument .. => .invalidType
  | slotCount .. => .invalidType
  | unsetRequired _ => .invalidType
  | badRequest _ => .invalidType
  | undescribedMethod _ => .missingDescription
  | undescribedParam .. => .missingDescription

/-- How many parameters a method takes. -/
def countText (required total : Nat) : String :=
  if required = total then toString required
  else "between " ++ toString required ++ " and " ++ toString total

def message : CodecError → String
  | duplicateMethod m => "method " ++ quoted m ++ " is already registered"
  | unknownFlags m flags => "invalid usage flags specified for method " ++ m ++ ": " ++ flags.text
  | unnamedField i => "field #" ++ toString (i + 1) ++ " has no name"
  | repeatedField f =>
    "field #" ++ toString (f.index + 1) ++ " '" ++ f.name ++ "' duplicates an earlier field"
  | requiredAfterOptional f =>
    f.label ++ " must be optional since it follows an optional parameter"
  | defaultOfRequired f => "required " ++ f.label ++ " cannot have a default value"
  | badDefault f => "default value of " ++ f.label ++ " is not of type " ++ f.typeName
  | unregisteredMethod m => "method '" ++ m ++ "' is not registered"
  | unregisteredType m => quoted m ++ " is not registered"
  | paramCount required total received =>
    "wrong number of params (expected " ++ countText required total ++ ", received "
      ++ toString received ++ ")"
  | badParam p cause => p.label ++ " must be type " ++ p.typeName ++ ": " ++ cause.message
  | badArgument p kind => p.label ++ " must be type " ++ p.typeName ++ " (got " ++ kind.text ++ ")"
  | slotCount m given declared =>
    m ++ " encoded " ++ toString given ++ " fields but declares " ++ toString declared
  | unsetRequired p => p.label ++ " is required but not set"
  | badRequest .malformed => "malformed request"
  | badRequest (.mismatch cause) => "malformed request: " ++ cause.message
  | undescribedMethod m => "no description for method '" ++ m ++ "'"
  | undescribedParam m p => "no description for " ++ p.label ++ " of method '" ++ m ++ "'"

end CodecError

/-- The error object of a response. -/
structure RpcError where
  code : Integer .int32
  message : String
  deriving DecidableEq, Repr

namespace RpcError

/-- The codes that servers answer with, by the name of the condition. -/
def codes : List (String × Int) :=
  [("INVALID_REQUEST", -32600), ("METHOD_NOT_FOUND", -32601), ("INVALID_PARAMS", -32602),
    ("INTERNAL_ERROR", -32603), ("PARSE_ERROR", -32700),
    ("MISC", -1), ("FORBIDDEN_BY_SAFE_MODE", -2), ("TYPE", -3), ("INVALID_ADDRESS_OR_KEY", -5),
    ("OUT_OF_MEMORY", -7), ("INVALID_PARAMETER", -8), ("DATABASE", -20), ("DESERIALIZATION", -22),
    ("VERIFY", -25),
    ("CLIENT_NOT_CONNECTED", -9), ("CLIENT_IN_INITIAL_DOWNLOAD", -10),
    ("CLIENT_NODE_NOT_ADDED", -24),
    ("WALLET", -4), ("WALLET_INSUFFICIENT_FUNDS", -6), ("WALLET_INVALID_ACCOUNT_NAME", -11),
    ("WALLET_KEYPOOL_RAN_OUT", -12), ("WALLET_UNLOCK_NEEDED", -13),
    ("WALLET_PASSPHRASE_INCORRECT", -14), ("WALLET_WRONG_ENC_STATE", -15),
    ("WALLET_ENCRYPTION_FAILED", -16), ("WALLET_ALREADY_UNLOCKED", -17),
    ("BLOCK_NOT_FOUND", -5), ("OUT_OF_RANGE", -1), ("NO_TX_INFO", -5), ("NO_CF_INDEX", -5),
    ("INVALID_TX_VOUT", -5), ("RAW_TX_STRING", -32602), ("DECODE_HEX_STRING", -22),
    ("NO_WALLET", -1), ("UNIMPLEMENTED", -1)]

/-- The error of a named condition. -/
def ofCondition? (name message : String) : Option RpcError := do
  let code ← codes.lookup name
  return ⟨← Integer.ofInt? .int32 code, message⟩

/-- No such method. -/
def methodNotFound (method : String) : RpcError :=
  ⟨⟨-32601, by decide, by decide⟩, "Method not found: " ++ method⟩

/-- The parameters do not fit. -/
def invalidParams (message : String) : RpcError := ⟨⟨-32602, by decide, by decide⟩, message⟩

/-- The request is no JSON. -/
def parseError (message : String) : RpcError := ⟨⟨-32700, by decide, by decide⟩, message⟩

/-- The error that answers a failure. -/
def ofFailure (code : ErrorCode) (description : String) : RpcError :=
  match code with
  | .unregisteredMethod => ⟨⟨-32601, by decide, by decide⟩, description⟩
  | _ => invalidParams description

def text (e : RpcError) : String := toString e.code.value ++ ": " ++ e.message

end RpcError

end NodeRpc
