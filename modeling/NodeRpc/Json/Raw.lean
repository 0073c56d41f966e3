import NodeRpc.Json.Basic
import NodeRpc.Number.Decimal
import NodeRpc.Text.Utf8

/-!
# JSON grammar over bytes

The grammar alone, without the conditions that only a wanted value has to meet: a `RawJson` keeps
numbers as digits and strings as pieces, so text that is merely stepped over needs no valid UTF-8,
no paired surrogates, no representable number and no bounded nesting.

Each reader takes the bytes from where it stands and returns what it read with the rest.
Nesting readers carry fuel; `RawJson.read` starts them with enough for any text of that length,
because a level of nesting or an element uses at most two steps per byte.
-/

namespace NodeRpc

namespace Byte

@[match_pattern] abbrev quote : UInt8 := 0x22
@[match_pattern] abbrev plus : UInt8 := 0x2b
@[match_pattern] abbrev comma : UInt8 := 0x2c
@[match_pattern] abbrev minus : UInt8 := 0x2d
@[match_pattern] abbrev point : UInt8 := 0x2e
@[match_pattern] abbrev colon : UInt8 := 0x3a
@[match_pattern] abbrev openArray : UInt8 := 0x5b
@[match_pattern] abbrev backslash : UInt8 := 0x5c
@[match_pattern] abbrev closeArray : UInt8 := 0x5d
@[match_pattern] abbrev openObject : UInt8 := 0x7b
@[match_pattern] abbrev closeObject : UInt8 := 0x7d

/-- Space, tab, line feed and carriage return. -/
def isBlank (b : UInt8) : Bool := b = 0x20 || b = 0x09 || b = 0x0a || b = 0x0d

def isDigit (b : UInt8) : Bool := 0x30 ≤ b && b ≤ 0x39

/-- The value of a hexadecimal digit of either case. -/
def hexValue? (b : UInt8) : Option Nat :=
  if 0x30 ≤ b ∧ b ≤ 0x39 then some (b.toNat - 0x30)
  else if 0x41 ≤ b ∧ b ≤ 0x46 then some (b.toNat - 0x37)
  else if 0x61 ≤ b ∧ b ≤ 0x66 then some (b.toNat - 0x57)
  else none

end Byte

/-- The bytes after any blanks. -/
def skipBlank (s : Bytes) : Bytes := s.dropWhile Byte.isBlank

/-! ## Numbers -/

/-- A number with one more digit. -/
def appendDigit (n : Nat) (b : UInt8) : Nat := 10 * n + (b.toNat - 0x30)

/-- The number that a run of digits writes. -/
def digitsValue (digits : Bytes) : Nat := digits.foldl appendDigit 0

/-- A number as written. -/
structure RawNumber where
  negative : Bool
  whole : Bytes
  fraction : Option Bytes
  exponent : Option (Bool × Bytes)
  deriving DecidableEq, Repr

namespace RawNumber

/-- At least one digit. -/
def readDigits (s : Bytes) : Option (Bytes × Bytes) :=
  match s.span Byte.isDigit with
  | ([], _) => none
  | (digits, rest) => some (digits, rest)

/-- A whole part: no zero before another digit. -/
def readWhole (s : Bytes) : Option (Bytes × Bytes) :=
  match readDigits s with
  | some (0x30 :: _ :: _, _) => none
  | read => read

def readFraction : Bytes → Option (Option Bytes × Bytes)
  | Byte.point :: s => (readDigits s).map fun (digits, rest) => (some digits, rest)
  | s => some (none, s)

def readExponent : Bytes → Option (Option (Bool × Bytes) × Bytes)
  | b :: s =>
    if b = 0x45 ∨ b = 0x65 then
      match s with
      | Byte.plus :: s => (readDigits s).map fun (digits, rest) => (some (false, digits), rest)
      | Byte.minus :: s => (readDigits s).map fun (digits, rest) => (some (true, digits), rest)
      | s => (readDigits s).map fun (digits, rest) => (some (false, digits), rest)
    else some (none, b :: s)
  | [] => some (none, [])

/-- A number after its sign. -/
def readUnsigned (negative : Bool) (s : Bytes) : Option (RawNumber × Bytes) := do
  let (whole, s) ← readWhole s
  let (fraction, s) ← readFraction s
  let (exponent, s) ← readExponent s
  return (⟨negative, whole, fraction, exponent⟩, s)

def read : Bytes → Option (RawNumber × Bytes)
  | Byte.minus :: s => readUnsigned true s
  | s => readUnsigned false s

/-- The written power of ten. -/
def power (r : RawNumber) : Int :=
  match r.exponent with
  | none => 0
  | some (false, digits) => digitsValue digits
  | some (true, digits) => -(digitsValue digits : Int)

/-- All written digits as one decimal. -/
def decimal (r : RawNumber) : Decimal :=
  let fraction := r.fraction.getD []
  ⟨digitsValue (r.whole ++ fraction), r.power - fraction.length⟩

/-- A coefficient with further digits behind it for as long as it fits 64 bits, and how many digits
are left from the first that does not. -/
def extend (coefficient : Nat) : Bytes → Nat × Nat
  | [] => (coefficient, 0)
  | b :: digits =>
    if appendDigit coefficient b ≤ 0xffffffffffffffff then
      extend (appendDigit coefficient b) digits
    else (coefficient, digits.length + 1)

/-- The decimal of the digits that a 64-bit coefficient holds.  Whole digits that are left still
count as places, and the fraction is tried again behind them; what is left of it is dropped. -/
def heldDecimal (r : RawNumber) : Decimal :=
  let fraction := r.fraction.getD []
  let (whole, places) := extend 0 r.whole
  let (coefficient, dropped) := extend whole fraction
  ⟨coefficient, r.power + places - (fraction.length - dropped : Nat)⟩

/-- The double read, if it is finite: near what is written, not always the nearest. -/
def toFloat? (r : RawNumber) : Option JsonNumber :=
  ((r.heldDecimal.toDouble r.negative).finite?).map .float

/-- The number meant: whole digits in range are an integer, but negative zero is a double. -/
def toNumber? (r : RawNumber) : Option JsonNumber :=
  if r.fraction = none ∧ r.exponent = none then
    let n := digitsValue r.whole
    if r.negative then
      if h : 0 < n ∧ n ≤ 0x8000000000000000 then some (.integer (-n) (by omega) (by omega))
      else r.toFloat?
    else if h : n ≤ 0xffffffffffffffff then some (.integer n (by omega) (by omega))
    else r.toFloat?
  else r.toFloat?

end RawNumber

/-! ## Strings -/

/-- A piece of a string as written: a byte that stands for itself, or one UTF-16 unit. -/
inductive RawPiece
  | byte (b : UInt8)
  | unit (n : Nat)
  deriving DecidableEq, Repr

namespace RawString

/-- The byte that a one-letter escape stands for. -/
def escape? (letter : UInt8) : Option UInt8 :=
  if letter = 0x22 ∨ letter = 0x5c ∨ letter = 0x2f then some letter
  else if letter = 0x62 then some 0x08
  else if letter = 0x66 then some 0x0c
  else if letter = 0x6e then some 0x0a
  else if letter = 0x72 then some 0x0d
  else if letter = 0x74 then some 0x09
  else none

/-- Four hexadecimal digits. -/
def unit? (a b c d : UInt8) : Option Nat := do
  return 4096 * (← Byte.hexValue? a) + 256 * (← Byte.hexValue? b) + 16 * (← Byte.hexValue? c)
    + (← Byte.hexValue? d)

/-- The pieces up to the closing quote. -/
def read : Bytes → Option (List RawPiece × Bytes)
  | [] => none
  | Byte.quote :: s => some ([], s)
  | Byte.backslash :: 0x75 :: a :: b :: c :: d :: s => do
    let n ← unit? a b c d
    let (pieces, rest) ← read s
    return (.unit n :: pieces, rest)
  | Byte.backslash :: letter :: s => do
    let b ← escape? letter
    let (pieces, rest) ← read s
    return (.byte b :: pieces, rest)
  | b :: s =>
    if b < 0x20 ∨ b = Byte.backslash then none
    else (read s).map fun (pieces, rest) => (.byte b :: pieces, rest)

/-- The bytes that the pieces stand for, a surrogate pair as one character; no lone surrogates. -/
def bytes? : List RawPiece → Option Bytes
  | [] => some []
  | .byte b :: rest => (bytes? rest).map (b :: ·)
  | .unit n :: rest =>
    if 0xd800 ≤ n ∧ n < 0xdc00 then
      match rest with
      | .unit m :: rest =>
        if 0xdc00 ≤ m ∧ m < 0xe000 then
          let c := Char.ofNat (0x10000 + 0x400 * (n - 0xd800) + (m - 0xdc00))
          (bytes? rest).map (String.utf8EncodeChar c ++ ·)
        else none
      | _ => none
    else if 0xdc00 ≤ n ∧ n < 0xe000 then none
    else (bytes? rest).map (String.utf8EncodeChar (Char.ofNat n) ++ ·)

/-- The text meant, if its bytes are UTF-8. -/
def toString? (pieces : List RawPiece) : Option String :=
  (bytes? pieces).bind fun bytes => String.fromUTF8? bytes.toByteArray

end RawString

/-! ## Values -/

/-- A value as written. -/
inductive RawJson
  | null
  | bool (b : Bool)
  | number (n : RawNumber)
  | string (pieces : List RawPiece)
  | array (items : List RawJson)
  | object (members : List (List RawPiece × RawJson))

namespace RawJson

/-- The text after a word, if the bytes start with it. -/
def word? (word : Bytes) (s : Bytes) : Option Bytes := word.isPrefixOf? s

def nullWord : Bytes := utf8 "null"
def trueWord : Bytes := utf8 "true"
def falseWord : Bytes := utf8 "false"

/-- A value without parts. -/
def readScalar (s : Bytes) : Option (RawJson × Bytes) :=
  match s with
  | Byte.quote :: s => (RawString.read s).map fun (pieces, rest) => (string pieces, rest)
  | s =>
    match word? nullWord s with
    | some rest => some (null, rest)
    | none => match word? trueWord s with
      | some rest => some (bool true, rest)
      | none => match word? falseWord s with
        | some rest => some (bool false, rest)
        | none => (RawNumber.read s).map fun (n, rest) => (number n, rest)

mutual

/-- A value, after blanks. -/
def readValue : Nat → Bytes → Option (RawJson × Bytes)
  | 0, _ => none
  | fuel + 1, s =>
    match skipBlank s with
    | Byte.openArray :: s =>
      match skipBlank s with
      | Byte.closeArray :: s => some (array [], s)
      | s => (readItems fuel s).map fun (items, rest) => (array items, rest)
    | Byte.openObject :: s =>
      match skipBlank s with
      | Byte.closeObject :: s => some (object [], s)
      | s => (readMembers fuel s).map fun (members, rest) => (object members, rest)
    | s => readScalar s

/-- The elements of an array up to its end. -/
def readItems : Nat → Bytes → Option (List RawJson × Bytes)
  | 0, _ => none
  | fuel + 1, s => do
    let (item, s) ← readValue fuel s
    match skipBlank s with
    | Byte.closeArray :: s => return ([item], s)
    | Byte.comma :: s =>
      let (items, s) ← readItems fuel s
      return (item :: items, s)
    | _ => none

/-- The members of an object up to its end. -/
def readMembers : Nat → Bytes → Option (List (List RawPiece × RawJson) × Bytes)
  | 0, _ => none
  | fuel + 1, s =>
    match skipBlank s with
    | Byte.quote :: s => do
      let (key, s) ← RawString.read s
      match skipBlank s with
      | Byte.colon :: s =>
        let (value, s) ← readValue fuel s
        match skipBlank s with
        | Byte.closeObject :: s => return ([(key, value)], s)
        | Byte.comma :: s =>
          let (members, s) ← readMembers fuel s
          return ((key, value) :: members, s)
        | _ => none
      | _ => none
    | _ => none

end

/-- The value that the bytes start with, and the bytes after it. -/
def read (s : Bytes) : Option (RawJson × Bytes) := readValue (2 * s.length + 2) s

end RawJson

end NodeRpc
