import NodeRpc.Schema.Basic

/-!
# Encoding and decoding by schema

`Schema.encode` writes a value as JSON and `Schema.decode` reads one.

A record is written as an object with its members in declared order.  It is read from an object,
whose declared members are decoded in the order in which they stand and whose other members are
ignored, or from a list of its members' values.  The first fault in that order is reported; a
missing member is one only after all members that are there have decoded.
-/

namespace NodeRpc

/-! ## Encoding -/

/-- What a member adds to the encoded object. -/
def encodeSlot {α : Type} (key : String) (encode : α → Json) (isBlank : α → Bool) :
    (rule : Rule) → rule.Slot α → List (String × Json)
  | .required, v => [(key, encode v)]
  | .defaulted, v => [(key, encode v)]
  | .elided, v => if isBlank v then [] else [(key, encode v)]
  | .optional, some v => [(key, encode v)]
  | .optional, none => []
  | .lenient, some v => [(key, encode v)]
  | .lenient, none => []
  | .nullable, some v => [(key, encode v)]
  | .nullable, none => [(key, .null)]

mutual

/-- A value as JSON. -/
def Schema.encode : (s : Schema) → s.Val → Json
  | .any, v => v
  | .string, v => Json.string v
  | .boolean, v => Json.bool v
  | .integer _, v => Json.ofInteger v
  | .float f, v => Json.ofDouble (Binary.toDouble f v)
  | .list element, v => Json.array (List.map element.encode v)
  | .map value, v =>
    Json.object ((SortedMap.entries v).map fun entry => (entry.1, value.encode entry.2))
  | .choice _ first others, v => Json.string ((first :: others).get v)
  | .union u, v => u.encode v
  | .record _ members, v => Json.object (members.encode v)

/-- The members of a record as JSON. -/
def Members.encode : (ms : Members) → ms.Val → List (String × Json)
  | .nil, _ => []
  | .cons key rule schema rest, v =>
    encodeSlot key schema.encode schema.isBlank rule v.1 ++ rest.encode v.2

end

/-! ## Decoding scalars -/

/-- An integer of a width; one out of range is refused, and so is every float. -/
def decodeInteger (w : IntWidth) : Json → Decoded (Integer w)
  | .number (.integer i lo hi) => match Integer.ofInt? w i with
    | some n => .ok n
    | none => .error (.invalidValue (.number (.integer i lo hi)) (.integer w))
  | v => refuse v (.integer w)

/-- A float of a format; integers are rounded to it. -/
def decodeFloat (f : FloatFormat) : Json → Decoded (Binary f)
  | .number (.integer i _ _) => .ok (.ofInt f i)
  | .number (.float x) => .ok (.ofDouble f (.finite x))
  | v => refuse v (.float f)

/-- The place of a word among some names. -/
def findChoice (word : String) : (names : List String) → Option (Fin names.length)
  | [] => none
  | name :: names => if word = name then some 0 else (findChoice word names).map Fin.succ

/-- One of some names, by itself or as the one key of an object that holds null. -/
def decodeChoice (first : String) (others : List String) : Json → Decoded (Fin (others.length + 1))
  | .string word => pick word
  | .object [(word, v)] => do
    let i ← pick word
    if v.isNull then return i else refuse v .unit
  | .object _ => .error (.invalidValue .map .singleKey)
  | v => refuse v .stringOrMap
where
  /-- The place of a word, or the refusal that lists the names. -/
  pick (word : String) : Decoded (Fin (others.length + 1)) :=
    match findChoice word (first :: others) with
    | some i => .ok i
    | none => .error (.unknownVariant word first others)

/-! ## Decoding members -/

/-- What a member holds when its value is given; null leaves it unset where that is possible. -/
def decodeSlot {α : Type} (decode : Json → Decoded α) (v : Json) :
    (rule : Rule) → Decoded (rule.Slot α)
  | .required => decode v
  | .defaulted => decode v
  | .elided => decode v
  | .optional => if v.isNull then .ok none else (decode v).map some
  | .lenient => if v.isNull then .ok none else (decode v).map some
  | .nullable => if v.isNull then .ok none else (decode v).map some

/-- What a member holds when it is missing. -/
def missingSlot {α : Type} (key : String) (default : α) : (rule : Rule) → Decoded (rule.Slot α)
  | .required => .error (.missingMember key)
  | .defaulted => .ok default
  | .elided => .ok default
  | .optional => .ok none
  | .lenient => .ok none
  | .nullable => .ok none

/-- What a member holds when the list of values ends before it. -/
def endedSlot {α : Type} (error : DecodeError) (default : α) : (rule : Rule) → Decoded (rule.Slot α)
  | .required => .error error
  | .defaulted => .ok default
  | .elided => .ok default
  | .optional => .error error
  | .lenient => .ok none
  | .nullable => .error error

/-- The entries of an object as a sorted map. -/
def decodeEntries {α : Type} (decode : Json → Decoded α) (acc : SortedMap α) :
    List (String × Json) → Decoded (SortedMap α)
  | [] => .ok acc
  | (key, v) :: rest => do
    let a ← decode v
    decodeEntries decode (acc.insert key a) rest

mutual

/-- The value that a JSON value stands for. -/
def Schema.decode : (s : Schema) → Json → Decoded s.Val
  | .any, v => .ok v
  | .string, v => match v with
    | .string text => Except.ok (ε := DecodeError) text
    | v => refuse v .string
  | .boolean, v => match v with
    | .bool b => .ok b
    | v => refuse v .boolean
  | .integer w, v => decodeInteger w v
  | .float f, v => decodeFloat f v
  | .list element, v => match v with
    | .array items => items.mapM element.decode
    | v => refuse v .sequence
  | .map value, v => match v with
    | .object members => decodeEntries value.decode .empty members
    | v => refuse v .map
  | .choice _ first others, v => decodeChoice first others v
  | .union u, v => u.decode v
  | .record name members, v => match v with
    | .object given => do
      given.forM members.check
      members.decode given
    | .array items => members.decodeItems name items.length members.count 0 items
    | v => refuse v (.record name)

/-- Whether a given member decodes, if it is declared. -/
def Members.check : Members → String × Json → Decoded Unit
  | .nil, _ => .ok ()
  | .cons key rule schema rest, given =>
    if given.1 = key then do
      let _ ← decodeSlot schema.decode given.2 rule
      return ()
    else rest.check given

/-- The declared members, each by its key. -/
def Members.decode : (ms : Members) → List (String × Json) → Decoded ms.Val
  | .nil, _ => .ok ()
  | .cons key rule schema rest, given => do
    let slot ← match given.lookup key with
      | some v => decodeSlot schema.decode v rule
      | none => missingSlot key schema.default rule
    return (slot, ← rest.decode given)

/-- The declared members from the values of a list.  `name`, `given` and `count` are the record's
name, the length of the list and the number of members; `index` is the place of the next one. -/
def Members.decodeItems (name : String) (given count : Nat) :
    (ms : Members) → Nat → List Json → Decoded ms.Val
  | .nil, _, [] => .ok ()
  | .nil, _, _ :: _ => .error (.invalidLength given .fewerItems)
  | .cons _ rule schema rest, index, [] => do
    let slot ← endedSlot (.invalidLength index (.members name count)) schema.default rule
    return (slot, ← rest.decodeItems name given count (index + 1) [])
  | .cons _ rule schema rest, index, v :: items => do
    let slot ← decodeSlot schema.decode v rule
    return (slot, ← rest.decodeItems name given count (index + 1) items)

end

/-- Whether a value decodes. -/
def Schema.accepts (s : Schema) (v : Json) : Bool := (s.decode v).isOk

end NodeRpc
