import NodeRpc.Json.Basic
import NodeRpc.Number.Decimal

/-!
# Writing JSON values

Values are written without blanks, members in their order.  A float has the fewest digits that
read back: positional with at least one decimal while its first digit stands between 10⁻⁵ and
10¹⁵, and with a signed exponent beyond.
-/

namespace NodeRpc

namespace Decimal

/-- All digits in place, the point among them or beyond them on either side, and at least
`decimals` digits after it. -/
def positional (d : Decimal) (decimals : Nat) : List Char :=
  let digits := d.digits
  if 0 ≤ d.exponent then
    digits ++ List.replicate d.exponent.toNat '0' ++
      (if decimals = 0 then [] else '.' :: List.replicate decimals '0')
  else
    let places := (-d.exponent).toNat
    let padded := List.replicate (places + 1 - digits.length) '0' ++ digits
    let whole := padded.length - places
    padded.take whole ++ '.' :: padded.drop whole

/-- One digit before the point and a signed exponent. -/
def scientific (d : Decimal) : List Char :=
  let exponent := (if d.leading < 0 then ['-'] else ['+']) ++ Nat.toDigits 10 d.leading.natAbs
  match d.digits with
  | [] => []
  | [digit] => digit :: 'e' :: exponent
  | digit :: more => digit :: '.' :: more ++ 'e' :: exponent

end Decimal

namespace Finite

/-- The text of a double in JSON; a tie goes to the even digit. -/
def toText (x : Finite .double) : String :=
  let d := x.shortest .toEven
  let text := if -5 ≤ d.leading ∧ d.leading ≤ 15 then d.positional 1 else d.scientific
  String.ofList (if x.negative then '-' :: text else text)

/-- The text of a double for display: positional, no decimals where none are needed; a tie goes
away from zero. -/
def toDisplay (x : Finite .double) : String :=
  let text := (x.shortest .up).positional 0
  String.ofList (if x.negative then '-' :: text else text)

end Finite

/-- The text of a number in JSON. -/
def JsonNumber.toText : JsonNumber → String
  | integer i _ _ => toString i
  | float x => x.toText

namespace Json

/-- A character inside a JSON string: the quote, the backslash and controls are escaped. -/
def escapeChar (c : Char) : List Char :=
  if c = '"' then ['\\', '"']
  else if c = '\\' then ['\\', '\\']
  else if c = '\x08' then ['\\', 'b']
  else if c = '\t' then ['\\', 't']
  else if c = '\n' then ['\\', 'n']
  else if c = '\x0c' then ['\\', 'f']
  else if c = '\r' then ['\\', 'r']
  else if c.toNat < 0x20 then
    ['\\', 'u', '0', '0', Nat.digitChar (c.toNat / 16), Nat.digitChar (c.toNat % 16)]
  else [c]

/-- A string between quotes. -/
def quote (s : String) : String :=
  "\"" ++ String.ofList (s.toList.flatMap escapeChar) ++ "\""

mutual

/-- The text of a value. -/
def toText : Json → String
  | null => "null"
  | bool true => "true"
  | bool false => "false"
  | number n => n.toText
  | string s => quote s
  | array items => "[" ++ ",".intercalate (itemTexts items) ++ "]"
  | object members => "\x7b" ++ ",".intercalate (memberTexts members) ++ "\x7d"

def itemTexts : List Json → List String
  | [] => []
  | item :: items => item.toText :: itemTexts items

def memberTexts : List (String × Json) → List String
  | [] => []
  | (key, value) :: members => (quote key ++ ":" ++ value.toText) :: memberTexts members

end

end Json

end NodeRpc
