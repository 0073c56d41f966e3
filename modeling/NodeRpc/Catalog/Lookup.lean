import NodeRpc.Catalog.Accounts
import NodeRpc.Catalog.Chain
import NodeRpc.Catalog.ChainSocket
import NodeRpc.Catalog.NodeControl
import NodeRpc.Catalog.Notices
import NodeRpc.Catalog.Wallet
import NodeRpc.Catalog.WalletSocket

/-!
# Looking things up

The command type that declares a method, and the schema that a type name stands for.
-/

namespace NodeRpc.Catalog

/-- Every command type, family by family. -/
def types : List CommandType :=
  chain ++ chainSocket ++ notices ++ nodeControl ++ wallet ++ walletSocket ++ accounts

/-- The command type that declares a method. -/
def typeOf? (method : String) : Option CommandType := types.find? fun t => t.method = method

/-- The schemas with names of their own. -/
def named : List Schema := [
  addNodeAction, nodeAction, changeType, estimateMode, filterType, outpoint, spentOutput,
  spentWitnessOutput, psbtInput, blockDetails, scriptSig, decodedInput, decodedScript,
  decodedOutput, rawTransaction, fundingOptions, psbtOptions, templateRequest, submitOptions,
  scriptAddress, importRequest, importOptions, Version.schema, RpcError.schema,
  .any, .string, .boolean, .float .single, .float .double,
  .integer .int8, .integer .int16, .integer .int32, .integer .int64,
  .integer .uint8, .integer .uint16, .integer .uint32, .integer .uint64,
  .union .descriptorRange, .union .hashOrHeight, .union .timestamp, .union .feeGuard,
  .union .scriptPubKey, .union .psbtOutput, .union .id]

/-- The text between a start and an end. -/
def between? (start last : List Char) (text : List Char) : Option (List Char) := do
  let rest ← start.isPrefixOf? text
  let middle ← last.reverse.isPrefixOf? rest.reverse
  return middle.reverse

/-- The schema of a type name with at most `depth` lists and maps around a named one. -/
def schemaWithin? : Nat → List Char → Option Schema
  | depth, text =>
    match named.find? fun s => s.typeName.toList = text with
    | some s => some s
    | none => match depth with
      | 0 => none
      | depth + 1 =>
        match between? "Vec<".toList ">".toList text with
        | some inner => (schemaWithin? depth inner).map .list
        | none => match between? "BTreeMap<String,".toList ">".toList text with
          | some inner => (schemaWithin? depth inner).map .map
          | none => none

/-- The schema that a type name stands for. -/
def schemaOf? (name : String) : Option Schema := schemaWithin? name.length name.toList

end NodeRpc.Catalog
