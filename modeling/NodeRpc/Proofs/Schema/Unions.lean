import NodeRpc.Proofs.Text.HexDigits
import NodeRpc.Schema.Union

/-!
# Values of several shapes read back

Each type of `UnionType` decodes what it encodes, apart from three losses:

* `FeeGuard.settle`         nothing said is written as a flag, and reads as that flag;
* `PsbtOutput.Survives`     an amount is written as a double, which need not read as the same amount;
* request ids, which are no parameters of any command (`UnionType.regular`).
-/

namespace NodeRpc

/-! ## Integers inside values -/

theorem JsonNumber.int64?_ofInteger_of_le {w : IntWidth} (hw : w.max ≤ IntWidth.int64.max)
    (n : Integer w) :
    ∃ m : Integer .int64, m.value = n.value ∧ (JsonNumber.ofInteger n).int64? = some m := by
  have lo : IntWidth.int64.min ≤ n.value := Int.le_trans w.int64_le_min n.lo
  have hi : n.value ≤ IntWidth.int64.max := Int.le_trans n.hi hw
  refine ⟨⟨n.value, lo, hi⟩, rfl, ?_⟩
  show Integer.ofInt? .int64 n.value = _
  rw [Integer.ofInt?_eq_some_iff]

namespace Json

@[simp] theorem int64?_ofInteger (n : Integer .int64) : (Json.ofInteger n).int64? = some n :=
  JsonNumber.int64?_ofInteger n

@[simp] theorem int64?_array (items : List Json) : (array items).int64? = none := rfl

end Json

/-! ## One lemma for each type -/

namespace DescriptorRange

theorem decode_encode (r : DescriptorRange) : decode (encode r) = .ok r := by
  cases r with
  | single last =>
    unfold decode encode
    rw [Json.int64?_ofInteger]
  | pair first last =>
    unfold decode encode
    dsimp only [Json.int64?_array]
    rw [Json.int64?_ofInteger, Json.int64?_ofInteger]

end DescriptorRange

namespace HashOrHeight

theorem decode_encode (b : HashOrHeight) : decode (encode b) = .ok b := by
  cases b with
  | height n =>
    unfold decode encode
    dsimp only [Json.ofInteger]
    rw [JsonNumber.int64?_ofInteger]
  | hash s => rfl

theorem decode_eq_ok {v : Json} {b : HashOrHeight} :
    decode v = .ok b ↔
      (∃ n, v.int64? = some n ∧ b = height n) ∨ ∃ word, v = .string word ∧ b = hash word := by
  cases v with
  | number n =>
    unfold decode Json.int64?
    dsimp only
    cases n.int64? with
    | none => simp
    | some m => simp [eq_comm]
  | string s => simp [decode, Json.int64?, eq_comm]
  | null => simp [decode, Json.int64?]
  | bool b => simp [decode, Json.int64?]
  | array items => simp [decode, Json.int64?]
  | object members => simp [decode, Json.int64?]

end HashOrHeight

namespace Timestamp

theorem decode_encode (t : Timestamp) : decode (encode t) = .ok t := by
  cases t with
  | seconds n =>
    unfold decode encode
    rw [Json.int64?_ofInteger]
  | now => rfl

end Timestamp

namespace FeeGuard

/-- What a guard reads back as. -/
def settle : FeeGuard → FeeGuard
  | unset => allowHighFees false
  | g => g

@[simp] theorem encode_settle (g : FeeGuard) : encode (settle g) = encode g := by cases g <;> rfl

theorem settle_eq_self {g : FeeGuard} (h : g ≠ unset) : settle g = g := by
  cases g with
  | unset => exact absurd rfl h
  | allowHighFees b => rfl
  | maxFeeRate rate => rfl

theorem decode_encode (g : FeeGuard) : decode (encode g) = .ok (settle g) := by
  cases g with
  | unset => rfl
  | allowHighFees b => rfl
  | maxFeeRate rate =>
    obtain ⟨m, hm, h64⟩ := JsonNumber.int64?_ofInteger_of_le (by decide) rate
    have hwhole : wholePart (.ofInteger rate) = rate.value := by
      unfold wholePart
      rw [h64]
      exact hm
    unfold decode encode
    dsimp only [Json.ofInteger]
    rw [hwhole, Integer.ofInt?_value]
    rfl

theorem ne_unset_of_decode {v : Json} {g : FeeGuard} (h : decode v = .ok g) : g ≠ unset := by
  rintro rfl
  unfold decode at h
  split at h
  · cases h
  · split at h <;> cases h
  · cases h

end FeeGuard

namespace ScriptPubKey

theorem decode_encode (s : ScriptPubKey) : decode (encode s) = .ok s := by cases s <;> rfl

end ScriptPubKey

namespace TemplateLimit

theorem decode_encode (member : String) (l : TemplateLimit) :
    decode member (encode l) = .ok l := by
  cases l with
  | number n =>
    unfold decode encode
    dsimp only [Json.ofInteger]
    rw [JsonNumber.int64?_ofInteger]
  | flag b => rfl

end TemplateLimit

namespace PsbtOutput

/-- Whether an amount reads back from the output that pays it. -/
def Survives : PsbtOutput → Prop
  | payment address amount => decode (encode (payment address amount)) = .ok (payment address amount)
  | data _ => True

theorem decode_encode {o : PsbtOutput} (h : o.Survives) : decode (encode o) = .ok o := by
  cases o with
  | payment address amount => exact h
  | data bytes =>
    unfold decode encode
    dsimp only [decodeMember]
    rw [if_pos rfl, Hex.decode_encode]

end PsbtOutput

/-! ## The family -/

namespace UnionType

/-- Whether decoding undoes encoding on all values of a type, lost amounts apart. -/
def regular : UnionType → Bool
  | feeGuard => false
  | id => false
  | _ => true

def Survives : (u : UnionType) → u.Val → Prop
  | psbtOutput, o => PsbtOutput.Survives o
  | _, _ => True

theorem decode_encode (u : UnionType) (hu : u.regular = true) (v : u.Val) (hv : u.Survives v) :
    u.decode (u.encode v) = .ok v := by
  cases u with
  | descriptorRange => exact DescriptorRange.decode_encode v
  | hashOrHeight => exact HashOrHeight.decode_encode v
  | timestamp => exact Timestamp.decode_encode v
  | feeGuard => cases hu
  | scriptPubKey => exact ScriptPubKey.decode_encode v
  | templateLimit member => exact TemplateLimit.decode_encode member v
  | psbtOutput => exact PsbtOutput.decode_encode hv
  | id => cases hu

end UnionType

end NodeRpc
