import NodeRpc.Text.Quoted

/-!
# Hexadecimal text

Two digits per byte, lower case when written and of either case when read.  Reading checks that the
length in bytes is even before it looks at any digit.
-/

namespace NodeRpc

/-- Why a text is not hexadecimal. -/
inductive HexError
  | oddLength
  | badDigit (shown : Char) (position : Nat)
  deriving DecidableEq, Repr

namespace HexError

def message : HexError → String
  | oddLength => "Odd number of digits"
  | badDigit c position =>
    "Invalid character " ++ quotedSingle c ++ " at position " ++ toString position

end HexError

namespace Hex

/-- The value of a digit. -/
def digitValue? (c : Char) : Option Nat :=
  if '0' ≤ c ∧ c ≤ '9' then some (c.toNat - '0'.toNat)
  else if 'a' ≤ c ∧ c ≤ 'f' then some (c.toNat - 'a'.toNat + 10)
  else if 'A' ≤ c ∧ c ≤ 'F' then some (c.toNat - 'A'.toNat + 10)
  else none

/-- The character that stands for `c` in a message: its first byte in UTF-8. -/
def shown (c : Char) : Char :=
  match String.utf8EncodeChar c with
  | b :: _ => Char.ofNat b.toNat
  | [] => c

/-- The digit at a position. -/
def digit (position : Nat) (c : Char) : Except HexError Nat :=
  match digitValue? c with
  | some n => .ok n
  | none => .error (.badDigit (shown c) position)

/-- The bytes that pairs of digits write, from a position on. -/
def decodeFrom (position : Nat) : List Char → Except HexError (List UInt8)
  | [] => .ok []
  | [c] => .error (.badDigit (shown c) position)
  | c :: d :: rest => do
    let high ← digit position c
    let low ← digit (position + 1) d
    let bytes ← decodeFrom (position + 2) rest
    return UInt8.ofNat (16 * high + low) :: bytes

/-- The bytes that a text writes. -/
def decode (s : String) : Except HexError (List UInt8) :=
  if s.utf8ByteSize % 2 = 1 then .error .oddLength else decodeFrom 0 s.toList

/-- The two digits of a byte. -/
def encodeByte (b : UInt8) : List Char :=
  [Nat.digitChar (b.toNat / 16), Nat.digitChar (b.toNat % 16)]

/-- The text of some bytes. -/
def encode (bytes : List UInt8) : String := String.ofList (bytes.flatMap encodeByte)

end Hex

end NodeRpc
