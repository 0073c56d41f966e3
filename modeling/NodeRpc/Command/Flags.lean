/-!
# Usage flags

Where a command may be used, as a set of bits.  Three bits have names; the text of a set lists the
names in order and then the remaining bits as one hexadecimal number.
-/

namespace NodeRpc

/-- A set of usage flags. -/
structure UsageFlags where
  bits : UInt32
  deriving DecidableEq, Repr

namespace UsageFlags

/-- No restriction. -/
def none : UsageFlags := ⟨0⟩

/-- Only with a wallet. -/
def walletOnly : UsageFlags := ⟨1⟩

/-- Only over a websocket. -/
def websocketOnly : UsageFlags := ⟨2⟩

/-- Sent by the server and never answered. -/
def notification : UsageFlags := ⟨4⟩

/-- The named flags, in the order of their text. -/
def named : List (UsageFlags × String) :=
  [(walletOnly, "UFWalletOnly"), (websocketOnly, "UFWebsocketOnly"),
    (notification, "UFNotification")]

/-- Whether every flag of `b` is in `a`. -/
def contains (a b : UsageFlags) : Bool := a.bits &&& b.bits == b.bits

def union (a b : UsageFlags) : UsageFlags := ⟨a.bits ||| b.bits⟩

instance : OrOp UsageFlags := ⟨union⟩

/-- The bits without a name. -/
def unknownBits (f : UsageFlags) : UInt32 := f.bits &&& ~~~7

def hasUnknownBits (f : UsageFlags) : Bool := f.unknownBits != 0

/-- The names of the flags that are in the set. -/
def names (f : UsageFlags) : List String :=
  (named.filter fun flag => f.contains flag.1).map Prod.snd

/-- A number in lower-case hexadecimal. -/
def hexText (bits : UInt32) : String := "0x" ++ String.ofList (Nat.toDigits 16 bits.toNat)

/-- The names, then the other bits; the empty set is `0x0`. -/
def text (f : UsageFlags) : String :=
  if f.bits = 0 then hexText 0
  else "|".intercalate (f.names ++ if f.hasUnknownBits then [hexText f.unknownBits] else [])

end UsageFlags

end NodeRpc
