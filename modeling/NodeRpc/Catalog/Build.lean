import NodeRpc.Catalog.Lookup

/-!
# Builders

Commands and parameters that have more convenient parts than their fields.
-/

namespace NodeRpc.Catalog

/-- Funds a transaction that is given by its bytes. -/
def fundRawTransactionOf (transaction : List UInt8) (options : fundingOptions.Val)
    (isWitness : Option Bool) : Command :=
  ⟨fundRawTransaction, (Hex.encode transaction, options, isWitness, ())⟩

/-- Sends a transaction; unless high fees are allowed they are not. -/
def sendRawTransactionOf (hex : String) (allowHighFees : Option Bool) : Command :=
  ⟨sendRawTransaction, (hex, some (.allowHighFees (allowHighFees.getD false)), ())⟩

/-- Sends a transaction whose fee rate is at most `rate`. -/
def sendRawTransactionWithin (hex : String) (rate : Integer .int32) : Command :=
  ⟨sendRawTransaction, (hex, some (.maxFeeRate rate), ())⟩

/-- An import by descriptor. -/
def importOfDescriptor (descriptor : String) (time : Timestamp) : importRequest.Val :=
  (some descriptor, none, time, none, none, none, none, none, none, none, none, none, ())

/-- An import by script. -/
def importOfScript (script : ScriptPubKey) (time : Timestamp) : importRequest.Val :=
  (none, some script, time, none, none, none, none, none, none, none, none, none, ())

end NodeRpc.Catalog
