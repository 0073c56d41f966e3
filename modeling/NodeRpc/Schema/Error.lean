import NodeRpc.Json.Writer
import NodeRpc.Text.Hex

/-!
# Why a value does not decode

`DecodeError` names the cause; `DecodeError.message` is its one wording.  `Found` says what stood in
the text, `Expected` what the place calls for.
-/

namespace NodeRpc

/-- What a place calls for. -/
inductive Expected
  | string
  | boolean
  | integer (w : IntWidth)
  | float (f : FloatFormat)
  | sequence
  | map
  | unit
  | stringOrMap
  | singleKey
  | record (name : String)
  | members (name : String) (count : Nat)
  | fewerItems
  deriving DecidableEq, Repr

/-- The short name of a float format. -/
def FloatFormat.text : FloatFormat → String
  | single => "f32"
  | double => "f64"

namespace Expected

def text : Expected → String
  | string => "a string"
  | boolean => "a boolean"
  | integer w => w.text
  | float f => f.text
  | sequence => "a sequence"
  | map => "a map"
  | unit => "unit"
  | stringOrMap => "string or map"
  | singleKey => "map with a single key"
  | record name => "struct " ++ name
  | members name count =>
    "struct " ++ name ++ " with " ++ toString count
      ++ (if count = 1 then " element" else " elements")
  | fewerItems => "fewer elements in array"

end Expected

/-- What stood in a place. -/
inductive Found
  | null
  | bool (b : Bool)
  | number (n : JsonNumber)
  | string (s : String)
  | sequence
  | map
  deriving DecidableEq, Repr

namespace Found

def ofJson : Json → Found
  | .null => null
  | .bool b => bool b
  | .number n => number n
  | .string s => string s
  | .array _ => sequence
  | .object _ => map

def text : Found → String
  | null => "null"
  | bool b => "boolean `" ++ toString b ++ "`"
  | number (.integer i _ _) => "integer `" ++ toString i ++ "`"
  | number (.float x) => "floating point `" ++ x.toText ++ "`"
  | string s => "string " ++ quoted s
  | sequence => "sequence"
  | map => "map"

end Found

/-- Why a value of several shapes does not decode. -/
inductive UnionError
  | range (kind : Json.Kind)
  | height
  | block (kind : Json.Kind)
  | timestampWord (given : String)
  | timestamp (kind : Json.Kind)
  | feeRate
  | feeSetting (kind : Json.Kind)
  | scriptPubKey (kind : Json.Kind)
  | limitNumber (member : String)
  | limit (member : String) (kind : Json.Kind)
  | outputShape (kind : Json.Kind)
  | outputKeys (count : Nat)
  | outputData (cause : HexError)
  | outputValue (key : String) (kind : Json.Kind)
  | id
  deriving DecidableEq, Repr

namespace UnionError

def message : UnionError → String
  | range k => "range must be an integer or a [begin, end] integer pair, got " ++ k.text
  | height => "height must be an integer"
  | block k => "expected a block height or hash string, got " ++ k.text
  | timestampWord s => "invalid timestamp string " ++ quoted s ++ ", only \"now\" is accepted"
  | timestamp k => "timestamp must be an integer or \"now\", got " ++ k.text
  | feeRate => "max fee rate out of range"
  | feeSetting k => "fee setting must be a bool or a number, got " ++ k.text
  | scriptPubKey k => "scriptPubKey must be a script string or an address object, got " ++ k.text
  | limitNumber m => m ++ " must be a bool or int64"
  | limit m k => m ++ " must be a bool or int64, got " ++ k.text
  | outputShape k => "psbt output must be an object, got " ++ k.text
  | outputKeys n => "psbt output must have exactly one key, got " ++ toString n
  | outputData e => "invalid psbt data output: " ++ e.message
  | outputValue key k => "invalid value for psbt output " ++ quoted key ++ ": " ++ k.text
  | id => "data did not match any variant of untagged enum Id"

end UnionError

/-- Why a value does not decode. -/
inductive DecodeError
  | invalidType (found : Found) (expected : Expected)
  | invalidValue (found : Found) (expected : Expected)
  | invalidLength (length : Nat) (expected : Expected)
  | unknownVariant (given first : String) (others : List String)
  | missingMember (name : String)
  | repeatedMember (name : String)
  | union (cause : UnionError)
  deriving DecidableEq, Repr

namespace DecodeError

/-- A word between backquotes. -/
def ticked (s : String) : String := "`" ++ s ++ "`"

/-- The names that would have been right. -/
def choices (first : String) : List String → String
  | [] => ticked first
  | [second] => ticked first ++ " or " ++ ticked second
  | others => "one of " ++ ", ".intercalate (ticked first :: others.map ticked)

def message : DecodeError → String
  | invalidType found expected => "invalid type: " ++ found.text ++ ", expected " ++ expected.text
  | invalidValue found expected => "invalid value: " ++ found.text ++ ", expected " ++ expected.text
  | invalidLength n expected => "invalid length " ++ toString n ++ ", expected " ++ expected.text
  | unknownVariant given first others =>
    "unknown variant " ++ ticked given ++ ", expected " ++ choices first others
  | missingMember name => "missing field " ++ ticked name
  | repeatedMember name => "duplicate field " ++ ticked name
  | union cause => cause.message

end DecodeError

/-- The outcome of decoding. -/
abbrev Decoded (α : Type) := Except DecodeError α

/-- The refusal of a value of another type than the place calls for. -/
def refuse {α : Type} (v : Json) (expected : Expected) : Decoded α :=
  .error (.invalidType (.ofJson v) expected)

end NodeRpc
