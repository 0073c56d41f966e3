import NodeRpc.Command.Error
import NodeRpc.Json.Reader
import NodeRpc.Schema.Codec

/-!
# Reading values straight from text

`Schema.read` decodes while it reads, so of several faults the first in the text is reported: a
value of another type than its place calls for is refused at its first byte, before what follows is
looked at.  A declared member that is repeated is refused; members that are not declared are only
stepped over by the grammar.

`opened` counts the arrays and objects around the value.
-/

namespace NodeRpc

/-- The outcome of reading: mostly a value and the bytes after it. -/
abbrev Reading (α : Type) := Except ReadError α

namespace Reading

/-- A grammar's answer as a reading. -/
def ofOption {α : Type} : Option α → Reading α
  | some a => .ok a
  | none => .error .malformed

/-- A decoder's answer as a reading. -/
def ofDecoded {α : Type} : Decoded α → Reading α
  | .ok a => .ok a
  | .error e => .error (.mismatch e)

/-- The refusal of what the bytes start with.  Of a list or an object only the bracket is read. -/
def refuse {α : Type} (expected : Expected) (s : Bytes) : Reading α :=
  match s with
  | Byte.openArray :: _ => .error (.mismatch (.invalidType .sequence expected))
  | Byte.openObject :: _ => .error (.mismatch (.invalidType .map expected))
  | s => match (RawJson.readScalar s).bind fun (raw, _) => raw.toJson? with
    | some v => .error (.mismatch (.invalidType (.ofJson v) expected))
    | none => .error .malformed

/-- The bytes after a mark, which may follow blanks. -/
def mark (b : UInt8) (s : Bytes) : Reading Bytes :=
  match skipBlank s with
  | c :: rest => if c = b then .ok rest else .error .malformed
  | [] => .error .malformed

/-- A whole value. -/
def json (opened : Nat) (s : Bytes) : Reading (Json × Bytes) := ofOption (Json.readWithin opened s)

/-- A text, after its opening quote. -/
def text (s : Bytes) : Reading (String × Bytes) := do
  let (pieces, rest) ← ofOption (RawString.read s)
  return (← ofOption (RawString.toString? pieces), rest)

/-- Steps over a value that is not wanted. -/
def skip (s : Bytes) : Reading Bytes := (ofOption (RawJson.read s)).map Prod.snd

/-- Refuses to open one more list or object than may be open. -/
def enter (opened : Nat) : Reading Unit :=
  if opened + 1 ≤ Json.maxDepth then .ok () else .error .malformed

/-- A value that is decoded from its whole text, which starts with a byte that fits. -/
def scalar {α : Type} (decode : Json → Decoded α) (s : Bytes) : Reading (α × Bytes) := do
  let (v, rest) ← json 0 s
  return (← ofDecoded (decode v), rest)

def startsNumber : Bytes → Bool
  | b :: _ => b = Byte.minus || Byte.isDigit b
  | [] => false

/-- A number. -/
def number {α : Type} (decode : Json → Decoded α) (expected : Expected) (s : Bytes) :
    Reading (α × Bytes) :=
  let s := skipBlank s
  if startsNumber s then scalar decode s else refuse expected s

/-- One of some names: the name itself, or an object that has it as its key, before null. -/
def choice (first : String) (others : List String) (opened : Nat) (s : Bytes) :
    Reading (Fin (others.length + 1) × Bytes) :=
  match skipBlank s with
  | Byte.quote :: s => do
    let (word, s) ← text s
    return (← ofDecoded (decodeChoice.pick first others word), s)
  | Byte.openObject :: s => do
    enter opened
    match skipBlank s with
    | Byte.quote :: s =>
      let (word, s) ← text s
      let i ← ofDecoded (decodeChoice.pick first others word)
      let s := skipBlank (← mark Byte.colon s)
      match s with
      | 0x6e :: _ =>
        let (_, s) ← json 0 s
        return (i, ← mark Byte.closeObject s)
      | s => refuse .unit s
    | _ => .error .malformed
  | _ => .error .malformed

/-- The elements of a list, up to its end. -/
def items {α : Type} (one : Bytes → Reading (α × Bytes)) : Nat → Bytes → Reading (List α × Bytes)
  | 0, _ => .error .malformed
  | fuel + 1, s => do
    let (a, s) ← one s
    match skipBlank s with
    | Byte.closeArray :: s => return ([a], s)
    | Byte.comma :: s =>
      let (more, s) ← items one fuel s
      return (a :: more, s)
    | _ => .error .malformed

/-- A list, after its opening bracket. -/
def list {α : Type} (one : Bytes → Reading (α × Bytes)) (s : Bytes) : Reading (List α × Bytes) :=
  match skipBlank s with
  | Byte.closeArray :: s => .ok ([], s)
  | s => items one (s.length + 1) s

/-- The members of an object, up to its end.  `one` takes a key and the bytes after it. -/
def members {σ : Type} (one : String → σ → Bytes → Reading (σ × Bytes)) :
    Nat → σ → Bytes → Reading (σ × Bytes)
  | 0, _, _ => .error .malformed
  | fuel + 1, state, s => do
    let (key, s) ← text (← mark Byte.quote s)
    let (state, s) ← one key state s
    match skipBlank s with
    | Byte.closeObject :: s => return (state, s)
    | Byte.comma :: s => members one fuel state s
    | _ => .error .malformed

/-- An object, after its opening bracket. -/
def object {σ : Type} (one : String → σ → Bytes → Reading (σ × Bytes)) (state : σ) (s : Bytes) :
    Reading (σ × Bytes) :=
  match skipBlank s with
  | Byte.closeObject :: s => .ok (state, s)
  | s => members one (s.length + 1) state s

/-- What a member holds; null leaves it unset where that is possible. -/
def slot {α : Type} (one : Bytes → Reading (α × Bytes)) (s : Bytes) :
    (rule : Rule) → Reading (rule.Slot α × Bytes)
  | .required => one s
  | .defaulted => one s
  | .elided => one s
  | .optional => unset? one s
  | .lenient => unset? one s
  | .nullable => unset? one s
where
  /-- A value or null. -/
  unset? (one : Bytes → Reading (α × Bytes)) (s : Bytes) : Reading (Option α × Bytes) :=
    match skipBlank s with
    | 0x6e :: s => (json 0 (0x6e :: s)).map fun (_, rest) => (none, rest)
    | s => (one s).map fun (a, rest) => (some a, rest)

/-- The bytes at the next element of a list, if there is one. -/
def nextItem? (first : Bool) (s : Bytes) : Reading (Option Bytes) :=
  match skipBlank s with
  | Byte.closeArray :: _ => .ok none
  | b :: rest =>
    if first then .ok (some (b :: rest))
    else if b = Byte.comma then .ok (some rest)
    else .error .malformed
  | [] => .error .malformed

end Reading

/-- What has been read of a record: for each member what it holds, once it has been read. -/
def Members.Partial : Members → Type
  | .nil => Unit
  | .cons _ rule schema rest => Option (rule.Slot schema.Val) × rest.Partial

namespace Members

/-- Nothing read yet. -/
def unread : (ms : Members) → ms.Partial
  | nil => ()
  | cons _ _ _ rest => (none, rest.unread)

/-- The record, once all its text is read: what was not read is missing. -/
def finish : (ms : Members) → ms.Partial → Decoded ms.Val
  | nil, _ => .ok ()
  | cons key rule schema rest, read => do
    let slot ← match read.1 with
      | some slot => .ok slot
      | none => missingSlot key schema.default rule
    return (slot, ← rest.finish read.2)

end Members

mutual

/-- The value that the bytes start with. -/
def Schema.read : (s : Schema) → Nat → Bytes → Reading (s.Val × Bytes)
  | .any, opened, s => Reading.json opened s
  | .string, _, s => match skipBlank s with
    | Byte.quote :: s => Reading.text s
    | s => Reading.refuse .string s
  | .boolean, _, s => match skipBlank s with
    | 0x74 :: s => Reading.scalar Schema.boolean.decode (0x74 :: s)
    | 0x66 :: s => Reading.scalar Schema.boolean.decode (0x66 :: s)
    | s => Reading.refuse .boolean s
  | .integer w, _, s => Reading.number (decodeInteger w) (.integer w) s
  | .float f, _, s => Reading.number (decodeFloat f) (.float f) s
  | .list element, opened, s => match skipBlank s with
    | Byte.openArray :: s => do
      Reading.enter opened
      Reading.list (element.read (opened + 1)) s
    | s => Reading.refuse .sequence s
  | .map value, opened, s => match skipBlank s with
    | Byte.openObject :: s => do
      Reading.enter opened
      Reading.object (fun key (acc : SortedMap value.Val) s => do
        let (v, s) ← value.read (opened + 1) (← Reading.mark Byte.colon s)
        return (acc.insert key v, s)) SortedMap.empty s
    | s => Reading.refuse .map s
  | .choice _ first others, opened, s => Reading.choice first others opened s
  | .union u, opened, s => do
    let (v, rest) ← Reading.json opened s
    return (← Reading.ofDecoded (u.decode v), rest)
  | .record name ms, opened, s => match skipBlank s with
    | Byte.openObject :: s => do
      Reading.enter opened
      let (read, s) ← Reading.object (ms.readMember (opened + 1)) ms.unread s
      return (← Reading.ofDecoded (ms.finish read), s)
    | Byte.openArray :: s => do
      Reading.enter opened
      ms.readItems name ms.count (opened + 1) 0 s
    | s => Reading.refuse (.record name) s

/-- Reads the member of a key, or steps over one that is not declared. -/
def Members.readMember :
    (ms : Members) → Nat → String → ms.Partial → Bytes → Reading (ms.Partial × Bytes)
  | .nil, _, _, _, s => do
    return ((), ← Reading.skip (← Reading.mark Byte.colon s))
  | .cons key rule schema rest, opened, given, read, s =>
    if given = key then
      if read.1.isSome then .error (.mismatch (.repeatedMember key))
      else do
        let (slot, s) ← Reading.slot (schema.read opened) (← Reading.mark Byte.colon s) rule
        return ((some slot, read.2), s)
    else do
      let (more, s) ← rest.readMember opened given read.2 s
      return ((read.1, more), s)

/-- Reads the members from the elements of a list, up to its end. -/
def Members.readItems (name : String) (count : Nat) :
    (ms : Members) → Nat → Nat → Bytes → Reading (ms.Val × Bytes)
  | .nil, _, _, s => do
    return ((), ← Reading.mark Byte.closeArray s)
  | .cons _ rule schema rest, opened, index, s => do
    match ← Reading.nextItem? (index == 0) s with
    | some s =>
      let (slot, s) ← Reading.slot (schema.read opened) s rule
      let (more, s) ← rest.readItems name count opened (index + 1) s
      return ((slot, more), s)
    | none =>
      let slot ← Reading.ofDecoded
        (endedSlot (.invalidLength index (.members name count)) schema.default rule)
      let (more, s) ← rest.readItems name count opened (index + 1) s
      return ((slot, more), s)

end

/-- The value that the bytes are. -/
def Schema.ofBytes (s : Schema) (bytes : Bytes) : Reading s.Val := do
  let (v, rest) ← s.read 0 bytes
  if (skipBlank rest).isEmpty then return v else .error .malformed

end NodeRpc
