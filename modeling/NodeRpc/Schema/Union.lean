import NodeRpc.Envelope.Id

/-!
# Values of several shapes

Some parameters take one of several JSON shapes.  Each is a type with one constructor per shape;
encoding writes the constructor's shape, decoding looks at the shape it is given.

* `DescriptorRange`  an index, or a pair of indices;
* `HashOrHeight`     a block by height or by hash;
* `Timestamp`        seconds, or the word `now`;
* `FeeGuard`         a flag, or a maximum fee rate;
* `ScriptPubKey`     a script, or an object with an address;
* `TemplateLimit`    a number, or a flag;
* `PsbtOutput`       a payment, or data.

`UnionType` names them, and request ids with them.
-/

namespace NodeRpc

/-- A range of descriptor indices: up to an index, or from one to another. -/
inductive DescriptorRange
  | single (last : Integer .int64)
  | pair (first last : Integer .int64)
  deriving DecidableEq, Repr

namespace DescriptorRange

def encode : DescriptorRange → Json
  | single last => .ofInteger last
  | pair first last => .array [.ofInteger first, .ofInteger last]

def decode (v : Json) : Decoded DescriptorRange :=
  match v.int64? with
  | some last => .ok (single last)
  | none => match v with
    | .array [a, b] => match a.int64?, b.int64? with
      | some first, some last => .ok (pair first last)
      | _, _ => .error (.union (.range v.kind))
    | v => .error (.union (.range v.kind))

end DescriptorRange

/-- A block, by height or by hash. -/
inductive HashOrHeight
  | height (height : Integer .int64)
  | hash (hash : String)
  deriving DecidableEq, Repr

namespace HashOrHeight

def encode : HashOrHeight → Json
  | height n => .ofInteger n
  | hash s => .string s

def decode : Json → Decoded HashOrHeight
  | .number n => match n.int64? with
    | some n => .ok (height n)
    | none => .error (.union .height)
  | .string s => .ok (hash s)
  | v => .error (.union (.block v.kind))

end HashOrHeight

/-- The birth of a key: seconds since 1970, or the present. -/
inductive Timestamp
  | seconds (seconds : Integer .int64)
  | now
  deriving DecidableEq, Repr

namespace Timestamp

def encode : Timestamp → Json
  | seconds n => .ofInteger n
  | now => .string "now"

def decode (v : Json) : Decoded Timestamp :=
  match v.int64? with
  | some n => .ok (seconds n)
  | none => match v with
    | .string s => if s = "now" then .ok now else .error (.union (.timestampWord s))
    | v => .error (.union (.timestamp v.kind))

end Timestamp

/-- The guard against high fees: nothing said, a flag, or a maximum rate.  Nothing said is written
as the flag `false`. -/
inductive FeeGuard
  | unset
  | allowHighFees (allow : Bool)
  | maxFeeRate (rate : Integer .int32)
  deriving DecidableEq, Repr

namespace FeeGuard

def encode : FeeGuard → Json
  | unset => .bool false
  | allowHighFees b => .bool b
  | maxFeeRate rate => .ofInteger rate

/-- The whole part of a number; past the 64-bit range, the nearest bound. -/
def wholePart (n : JsonNumber) : Int :=
  match n.int64? with
  | some i => i.value
  | none => n.toDouble.clampWith Finite.truncated IntWidth.int64.min IntWidth.int64.max

def decode : Json → Decoded FeeGuard
  | .bool b => .ok (allowHighFees b)
  | .number n => match Integer.ofInt? .int32 (wholePart n) with
    | some rate => .ok (maxFeeRate rate)
    | none => .error (.union .feeRate)
  | v => .error (.union (.feeSetting v.kind))

end FeeGuard

/-- A script to import, as it is or by its address. -/
inductive ScriptPubKey
  | script (hex : String)
  | address (address : String)
  deriving DecidableEq, Repr

namespace ScriptPubKey

def encode : ScriptPubKey → Json
  | script hex => .string hex
  | address a => .object [("address", .string a)]

def decode : Json → Decoded ScriptPubKey
  | .string s => .ok (script s)
  | .object members => match members.lookup "address" with
    | some (.string a) => .ok (address a)
    | some v => refuse v .string
    | none => .error (.missingMember "address")
  | v => .error (.union (.scriptPubKey v.kind))

end ScriptPubKey

/-- A limit of a block template: a number, or whether to use the server's own. -/
inductive TemplateLimit
  | number (limit : Integer .int64)
  | flag (use : Bool)
  deriving DecidableEq, Repr

namespace TemplateLimit

def encode : TemplateLimit → Json
  | number n => .ofInteger n
  | flag b => .bool b

/-- Decodes the limit that stands in a member, which messages name. -/
def decode (member : String) : Json → Decoded TemplateLimit
  | .bool b => .ok (flag b)
  | .number n => match n.int64? with
    | some n => .ok (number n)
    | none => .error (.union (.limitNumber member))
  | v => .error (.union (.limit member v.kind))

end TemplateLimit

/-- An output of a partially signed transaction: a payment in satoshi, or data.  A payment is
written as one member, from the address to the amount in whole coins; data as one member `data`. -/
inductive PsbtOutput
  | payment (address : String) (satoshi : Integer .int64)
  | data (bytes : List UInt8)
  deriving DecidableEq, Repr

namespace PsbtOutput

/-- Satoshi in one coin. -/
def satoshiPerCoin : Nat := 100000000

/-- An amount in coins, rounded from the exact integer and again after the division. -/
def coins (satoshi : Integer .int64) : Binary .double :=
  (Binary.ofInt .double satoshi.value).divide satoshiPerCoin

/-- The nearest amount in satoshi; past the 64-bit range, the nearest bound. -/
def satoshi (coins : Binary .double) : Integer .int64 :=
  .clamp .int64 ((coins.scale satoshiPerCoin).clampWith Finite.rounded
    IntWidth.int64.min IntWidth.int64.max)

def encode : PsbtOutput → Json
  | payment address amount => .object [(address, .ofDouble (coins amount))]
  | data bytes => .object [("data", .string (Hex.encode bytes))]

/-- Decodes the one member of an output. -/
def decodeMember (key : String) : Json → Decoded PsbtOutput
  | .number n => .ok (payment key (satoshi n.toDouble))
  | .string s =>
    if key = "data" then
      match Hex.decode s with
      | .ok bytes => .ok (data bytes)
      | .error e => .error (.union (.outputData e))
    else .error (.union (.outputValue key .string))
  | v => .error (.union (.outputValue key v.kind))

def decode : Json → Decoded PsbtOutput
  | .object [(key, v)] => decodeMember key v
  | .object members => .error (.union (.outputKeys members.length))
  | v => .error (.union (.outputShape v.kind))

end PsbtOutput

/-! ## The family -/

/-- The types above, by name. -/
inductive UnionType
  | descriptorRange
  | hashOrHeight
  | timestamp
  | feeGuard
  | scriptPubKey
  | templateLimit (member : String)
  | psbtOutput
  | id
  deriving DecidableEq, Repr

namespace UnionType

/-- The values of a type of the family. -/
abbrev Val : UnionType → Type
  | descriptorRange => DescriptorRange
  | hashOrHeight => HashOrHeight
  | timestamp => Timestamp
  | feeGuard => FeeGuard
  | scriptPubKey => ScriptPubKey
  | templateLimit _ => TemplateLimit
  | psbtOutput => PsbtOutput
  | id => Id

def typeName : UnionType → String
  | descriptorRange => "DescriptorRange"
  | hashOrHeight => "HashOrHeight"
  | timestamp => "TimestampOrNow"
  | feeGuard => "AllowHighFeesOrMaxFeeRate"
  | scriptPubKey => "ScriptPubKey"
  | templateLimit _ => "TemplateLimit"
  | psbtOutput => "PsbtOutput"
  | id => "Id"

/-- The value that a record holds before anything is set. -/
def default : (u : UnionType) → u.Val
  | descriptorRange => .single .zero
  | hashOrHeight => .height .zero
  | timestamp => .seconds .zero
  | feeGuard => .unset
  | scriptPubKey => .script ""
  | templateLimit _ => .number .zero
  | psbtOutput => .data []
  | id => .null

def encode : (u : UnionType) → u.Val → Json
  | descriptorRange, v => DescriptorRange.encode v
  | hashOrHeight, v => HashOrHeight.encode v
  | timestamp, v => Timestamp.encode v
  | feeGuard, v => FeeGuard.encode v
  | scriptPubKey, v => ScriptPubKey.encode v
  | templateLimit _, v => TemplateLimit.encode v
  | psbtOutput, v => PsbtOutput.encode v
  | id, v => Id.encode v

def decode : (u : UnionType) → Json → Decoded u.Val
  | descriptorRange, v => DescriptorRange.decode v
  | hashOrHeight, v => HashOrHeight.decode v
  | timestamp, v => Timestamp.decode v
  | feeGuard, v => FeeGuard.decode v
  | scriptPubKey, v => ScriptPubKey.decode v
  | templateLimit member, v => TemplateLimit.decode member v
  | psbtOutput, v => PsbtOutput.decode v
  | id, v => Id.decode v

instance decEqVal : (u : UnionType) → DecidableEq u.Val
  | descriptorRange => inferInstanceAs (DecidableEq DescriptorRange)
  | hashOrHeight => inferInstanceAs (DecidableEq HashOrHeight)
  | timestamp => inferInstanceAs (DecidableEq Timestamp)
  | feeGuard => inferInstanceAs (DecidableEq FeeGuard)
  | scriptPubKey => inferInstanceAs (DecidableEq ScriptPubKey)
  | templateLimit _ => inferInstanceAs (DecidableEq TemplateLimit)
  | psbtOutput => inferInstanceAs (DecidableEq PsbtOutput)
  | id => inferInstanceAs (DecidableEq Id)

end UnionType

end NodeRpc
