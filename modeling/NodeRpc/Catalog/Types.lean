import NodeRpc.Command.Basic
import NodeRpc.Envelope.Message

/-!
# Types of parameters

The records and choices that the commands of the catalog take, and the words in which their tables
are written: `param` is a required parameter and `setting` an optional one; `about` describes it,
`standing` gives the default that decoding applies, and `shownAs` replaces its usage text.
-/

namespace NodeRpc

/-- Members from a list of them. -/
def Members.ofList : List (String × Rule × Schema) → Members
  | [] => .nil
  | (key, rule, schema) :: rest => .cons key rule schema (ofList rest)

namespace Field

def about (f : Field) (text : String) : Field := { f with description := some text }

def standing (f : Field) (text : String) : Field := { f with defaultText := some text }

def shownAs (f : Field) (text : String) : Field := { f with usage := some text }

end Field

namespace Catalog

/-- A required parameter. -/
def param (name : String) (schema : Schema) : Field :=
  ⟨name, schema, schema.kind, false, none, none, none⟩

/-- An optional parameter. -/
def setting (name : String) (schema : Schema) : Field :=
  ⟨name, schema, schema.kind, true, none, none, none⟩

/-- A command type whose values are typed. -/
def command (method : String) (flags : UsageFlags) (description : String) (fields : List Field) :
    CommandType :=
  ⟨method, flags, some description, fields, .typed⟩

/-- A record of the catalog. -/
def record (name : String) (members : List (String × Rule × Schema)) : Schema :=
  .record name (.ofList members)

/-! ## Choices -/

/-- What to do with a persistent peer. -/
def addNodeAction : Schema := .choice "AddNodeSubCmd" "add" ["remove", "onetry"]

/-- What to do with a peer. -/
def nodeAction : Schema := .choice "NodeSubCmd" "connect" ["remove", "disconnect"]

/-- The type of a change output's script. -/
def changeType : Schema := .choice "ChangeType" "legacy" ["p2sh-segwit", "bech32"]

/-- How a fee is estimated. -/
def estimateMode : Schema :=
  .choice "EstimateSmartFeeMode" "UNSET" ["ECONOMICAL", "CONSERVATIVE"]

/-- The type of a committed filter. -/
def filterType : Schema := .choice "FilterTypeName" "basic" []

/-! ## Transactions -/

/-- The outpoint that an input spends. -/
def outpoint : Schema := record "TransactionInput" [
  ("txid", .required, .string),
  ("vout", .required, .integer .uint32)]

/-- The output that an input to sign spends. -/
def spentOutput : Schema := record "RawTxInput" [
  ("txid", .required, .string),
  ("vout", .required, .integer .uint32),
  ("scriptPubKey", .required, .string),
  ("redeemScript", .required, .string)]

/-- The output that an input to sign spends, with what segregated witnesses need. -/
def spentWitnessOutput : Schema := record "RawTxWitnessInput" [
  ("txid", .required, .string),
  ("vout", .required, .integer .uint32),
  ("scriptPubKey", .required, .string),
  ("redeemScript", .optional, .string),
  ("witnessScript", .optional, .string),
  ("amount", .optional, .float .double)]

/-- An input of a partially signed transaction to create. -/
def psbtInput : Schema := record "PsbtInput" [
  ("txid", .required, .string),
  ("vout", .required, .integer .uint32),
  ("sequence", .required, .integer .uint32)]

/-- The block in which a transaction was mined. -/
def blockDetails : Schema := record "BlockDetails" [
  ("height", .required, .integer .int32),
  ("hash", .required, .string),
  ("index", .required, .integer .int32),
  ("time", .required, .integer .int64)]

/-- The script of a decoded input. -/
def scriptSig : Schema := record "ScriptSig" [
  ("asm", .required, .string),
  ("hex", .required, .string)]

/-- A decoded input. -/
def decodedInput : Schema := record "Vin" [
  ("coinbase", .optional, .string),
  ("txid", .optional, .string),
  ("vout", .optional, .integer .uint32),
  ("scriptSig", .optional, scriptSig),
  ("txinwitness", .elided, .list .string),
  ("sequence", .required, .integer .uint32)]

/-- The script of a decoded output. -/
def decodedScript : Schema := record "ScriptPubKeyResult" [
  ("asm", .required, .string),
  ("hex", .elided, .string),
  ("reqSigs", .optional, .integer .int32),
  ("type", .required, .string),
  ("addresses", .elided, .list .string)]

/-- A decoded output. -/
def decodedOutput : Schema := record "Vout" [
  ("value", .required, .float .double),
  ("n", .required, .integer .uint32),
  ("scriptPubKey", .required, decodedScript)]

/-- A decoded transaction. -/
def rawTransaction : Schema := record "TxRawResult" [
  ("hex", .required, .string),
  ("txid", .required, .string),
  ("hash", .elided, .string),
  ("size", .elided, .integer .int32),
  ("vsize", .elided, .integer .int32),
  ("weight", .elided, .integer .int32),
  ("version", .required, .integer .int32),
  ("locktime", .required, .integer .uint32),
  ("vin", .nullable, .list decodedInput),
  ("vout", .nullable, .list decodedOutput),
  ("blockhash", .elided, .string),
  ("confirmations", .elided, .integer .uint64),
  ("time", .elided, .integer .int64),
  ("blocktime", .elided, .integer .int64)]

/-! ## Options -/

/-- The members that funding options share, with integers of a width. -/
def fundingMembers (w : IntWidth) : List (String × Rule × Schema) := [
  ("changeAddress", .optional, .string),
  ("changePosition", .optional, .integer w),
  ("change_type", .optional, changeType),
  ("includeWatching", .optional, .boolean),
  ("lockUnspents", .optional, .boolean),
  ("feeRate", .optional, .float .double),
  ("subtractFeeFromOutputs", .elided, .list (.integer w)),
  ("replaceable", .optional, .boolean),
  ("conf_target", .optional, .integer w),
  ("estimate_mode", .optional, estimateMode)]

/-- How a raw transaction is funded. -/
def fundingOptions : Schema := record "FundRawTransactionOpts" (fundingMembers .int32)

/-- How a partially signed transaction is funded. -/
def psbtOptions : Schema := record "WalletCreateFundedPsbtOpts" (fundingMembers .int64)

/-- What is asked of a block template. -/
def templateRequest : Schema := record "TemplateRequest" [
  ("mode", .elided, .string),
  ("capabilities", .elided, .list .string),
  ("longpollid", .optional, .string),
  ("sigoplimit", .lenient, .union (.templateLimit "sigoplimit")),
  ("sizelimit", .lenient, .union (.templateLimit "sizelimit")),
  ("maxversion", .elided, .integer .uint32),
  ("target", .optional, .string),
  ("data", .optional, .string),
  ("workid", .optional, .string),
  ("rules", .elided, .list .string)]

/-- What goes with a submitted block. -/
def submitOptions : Schema := record "SubmitBlockOptions" [("workid", .elided, .string)]

/-- A script that is given by its address. -/
def scriptAddress : Schema := record "ScriptPubKeyAddress" [("address", .required, .string)]

/-- One entry of an import. -/
def importRequest : Schema := record "ImportMultiRequest" [
  ("desc", .optional, .string),
  ("scriptPubKey", .optional, .union .scriptPubKey),
  ("timestamp", .required, .union .timestamp),
  ("redeemscript", .optional, .string),
  ("witnessscript", .optional, .string),
  ("pubkeys", .optional, .list .string),
  ("keys", .optional, .list .string),
  ("range", .optional, .union .descriptorRange),
  ("internal", .optional, .boolean),
  ("watchonly", .optional, .boolean),
  ("label", .optional, .string),
  ("keypool", .optional, .boolean)]

/-- How an import is done. -/
def importOptions : Schema := record "ImportMultiOptions" [("rescan", .required, .boolean)]

end Catalog

end NodeRpc
