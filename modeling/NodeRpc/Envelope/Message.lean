import NodeRpc.Schema.Reader

/-!
# Requests and responses

The envelope of the protocol.  A request has positional parameters; its absent members are version
1.0, no parameters and a null id.  A response is written with both `result` and `error` under
version 1.0, and with the one that is set under version 2.0.

Each is decoded by the schema of its members, from a value with `decode` or from text with
`ofBytes`.
-/

namespace NodeRpc

/-- The protocol version of a message. -/
inductive Version
  | v1
  | v2
  deriving DecidableEq, Repr

namespace Version

def text : Version → String
  | v1 => "1.0"
  | v2 => "2.0"

/-- The schema of a version. -/
def schema : Schema := .choice "RpcVersion" "1.0" ["2.0"]

/-- The version of a choice. -/
def ofVal (v : schema.Val) : Version :=
  let i : Fin 2 := v
  if i = 0 then v1 else v2

/-- The choice of a version. -/
def toVal (version : Version) : schema.Val :=
  let i : Fin 2 := match version with
    | v1 => 0
    | v2 => 1
  i

end Version

/-- A method call, or a notification if its id is null. -/
structure Request where
  version : Version
  method : String
  params : List Json
  id : Id
  deriving DecidableEq

namespace Request

/-- The members of a request. -/
def members : Members :=
  .cons "jsonrpc" .defaulted Version.schema <|
  .cons "method" .required .string <|
  .cons "params" .defaulted (.list .any) <|
  .cons "id" .defaulted (.union .id) .nil

/-- The schema of a request. -/
def schema : Schema := .record "Request" members

def ofVal (v : schema.Val) : Request :=
  let v : members.Val := v
  ⟨.ofVal v.1, v.2.1, v.2.2.1, v.2.2.2.1⟩

def toVal (r : Request) : schema.Val :=
  let v : members.Val := (r.version.toVal, r.method, r.params, r.id, ())
  v

/-- Whether no response is expected. -/
def isNotification (r : Request) : Bool := r.id.isNull

/-- A request as JSON. -/
def encode (r : Request) : Json := schema.encode r.toVal

/-- The request that a JSON value stands for. -/
def decode (v : Json) : Decoded Request := (schema.decode v).map ofVal

/-- The text of a request. -/
def toText (r : Request) : String := r.encode.toText

/-- The request that the bytes are. -/
def ofBytes (bytes : Bytes) : Except ReadError Request := (schema.ofBytes bytes).map ofVal

end Request

namespace RpcError

/-- The members of an error object. -/
def members : Members :=
  .cons "code" .required (.integer .int32) <|
  .cons "message" .required .string .nil

/-- The schema of an error object. -/
def schema : Schema := .record "RpcError" members

def ofVal (v : schema.Val) : RpcError :=
  let v : members.Val := v
  ⟨v.1, v.2.1⟩

def toVal (e : RpcError) : schema.Val :=
  let v : members.Val := (e.code, e.message, ())
  v

/-- An error object as JSON. -/
def encode (e : RpcError) : Json := schema.encode e.toVal

end RpcError

/-- The answer to a request. -/
structure Response where
  version : Version
  result : Option Json
  error : Option RpcError
  id : Id
  deriving DecidableEq

namespace Response

/-- The members of a response. -/
def members : Members :=
  .cons "jsonrpc" .defaulted Version.schema <|
  .cons "result" .lenient .any <|
  .cons "error" .lenient RpcError.schema <|
  .cons "id" .defaulted (.union .id) .nil

/-- The schema of a response. -/
def schema : Schema := .record "Response" members

def ofVal (v : schema.Val) : Response :=
  let v : members.Val := v
  let error : Option RpcError.schema.Val := v.2.2.1
  ⟨.ofVal v.1, v.2.1, error.map RpcError.ofVal, v.2.2.2.1⟩

/-- The result as JSON; none is null. -/
def resultJson (r : Response) : Json := r.result.getD .null

/-- The error as JSON; none is null. -/
def errorJson (r : Response) : Json := (r.error.map RpcError.encode).getD .null

/-- What lies between the version and the id. -/
def outcome (r : Response) : List (String × Json) :=
  match r.version, r.error with
  | .v1, _ => [("result", r.resultJson), ("error", r.errorJson)]
  | .v2, some e => [("error", e.encode)]
  | .v2, none => [("result", r.resultJson)]

/-- A response as JSON. -/
def encode (r : Response) : Json :=
  .object (("jsonrpc", .string r.version.text) :: r.outcome ++ [("id", r.id.encode)])

/-- The response that a JSON value stands for. -/
def decode (v : Json) : Decoded Response := (schema.decode v).map ofVal

/-- The text of a response. -/
def toText (r : Response) : String := r.encode.toText

/-- The response that the bytes are. -/
def ofBytes (bytes : Bytes) : Except ReadError Response := (schema.ofBytes bytes).map ofVal

end Response

end NodeRpc
