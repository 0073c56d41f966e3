import NodeRpc.Json.Raw

/-!
# Reading JSON values

A value is read by the grammar and then must hold: every number has a finite value, every string
is Unicode text, and at most `Json.maxDepth` arrays and objects are open at once.  A repeated key
keeps its first place and its last value.
-/

namespace NodeRpc

namespace RawJson

mutual

/-- How many arrays and objects are open at the deepest point. -/
def depth : RawJson → Nat
  | array items => 1 + itemsDepth items
  | object members => 1 + membersDepth members
  | _ => 0

def itemsDepth : List RawJson → Nat
  | [] => 0
  | item :: items => max item.depth (itemsDepth items)

def membersDepth : List (List RawPiece × RawJson) → Nat
  | [] => 0
  | (_, value) :: members => max value.depth (membersDepth members)

end

mutual

/-- The value meant. -/
def toJson? : RawJson → Option Json
  | null => some .null
  | bool b => some (.bool b)
  | number n => n.toNumber?.map .number
  | string pieces => (RawString.toString? pieces).map .string
  | array items => (itemsToJson? items).map .array
  | object members => (membersToJson? members).map fun ms =>
      .object (ms.foldl (fun acc m => Json.put m.1 m.2 acc) [])

def itemsToJson? : List RawJson → Option (List Json)
  | [] => some []
  | item :: items => do return (← item.toJson?) :: (← itemsToJson? items)

def membersToJson? : List (List RawPiece × RawJson) → Option (List (String × Json))
  | [] => some []
  | (key, value) :: members => do
    return (← RawString.toString? key, ← value.toJson?) :: (← membersToJson? members)

end

end RawJson

namespace Json

/-- The deepest nesting that is read. -/
def maxDepth : Nat := 127

/-- The value that the bytes start with, when `opened` arrays and objects are open around it. -/
def readWithin (opened : Nat) (s : Bytes) : Option (Json × Bytes) := do
  let (raw, rest) ← RawJson.read s
  if raw.depth + opened ≤ maxDepth then return (← raw.toJson?, rest) else none

/-- The value that the bytes are. -/
def ofBytes? (s : Bytes) : Option Json := do
  let (value, rest) ← readWithin 0 s
  if (skipBlank rest).isEmpty then return value else none

/-- The value that a text is. -/
def ofText? (text : String) : Option Json := ofBytes? (utf8 text)

end Json

end NodeRpc
