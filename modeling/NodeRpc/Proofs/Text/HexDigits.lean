import NodeRpc.Proofs.Outcome
import NodeRpc.Text.Hex
import NodeRpc.Text.Utf8

/-!
# Hexadecimal text reads back

* `Hex.decode_encode`        the text of some bytes reads as those bytes;
* `Hex.exists_decode_iff`    what reads is an even number of digits of either case;
* `Hex.encode_of_decode`     the bytes are those whose text it is, in lower case.

The reader first looks at the length in bytes, which is the number of digits because every digit is
one byte (`utf8ByteSize_ofList`).
-/

namespace NodeRpc

theorem utf8_ofList (cs : List Char) : utf8 (String.ofList cs) = cs.flatMap String.utf8EncodeChar := by
  show (String.ofList cs).toByteArray.data.toList = _
  rw [String.toByteArray_ofList]
  exact List.data_toByteArray ▸ rfl

theorem length_utf8 (s : String) : (utf8 s).length = s.utf8ByteSize := by
  show s.toByteArray.data.toList.length = _
  rfl

theorem utf8ByteSize_ofList {cs : List Char} (h : ∀ c ∈ cs, c.utf8Size = 1) :
    (String.ofList cs).utf8ByteSize = cs.length := by
  rw [← length_utf8, utf8_ofList]
  induction cs with
  | nil => rfl
  | cons c cs ih =>
    have hc : (String.utf8EncodeChar c).length = 1 := by
      rw [String.length_utf8EncodeChar]
      exact h c List.mem_cons_self
    rw [List.flatMap_cons, List.length_append, hc, ih fun d hd => h d (List.mem_cons_of_mem _ hd),
      List.length_cons, Nat.add_comm]

namespace Hex

theorem digitValue?_digitChar : ∀ n, n < 16 → digitValue? (Nat.digitChar n) = some n := by decide

theorem utf8Size_digitChar : ∀ n, n < 16 → (Nat.digitChar n).utf8Size = 1 := by decide

theorem digit_digitChar {n : Nat} (h : n < 16) (position : Nat) :
    digit position (Nat.digitChar n) = .ok n := by
  unfold digit
  rw [digitValue?_digitChar n h]

theorem high_lt (b : UInt8) : b.toNat / 16 < 16 := by
  have hb := b.toNat_lt
  omega

theorem low_lt (b : UInt8) : b.toNat % 16 < 16 := Nat.mod_lt _ (by decide)

theorem decodeFrom_flatMap (bytes : List UInt8) :
    ∀ position, decodeFrom position (bytes.flatMap encodeByte) = .ok bytes := by
  induction bytes with
  | nil => intro position; rfl
  | cons b bytes ih =>
    intro position
    have hbyte : UInt8.ofNat (16 * (b.toNat / 16) + b.toNat % 16) = b := by
      rw [Nat.div_add_mod, UInt8.ofNat_toNat]
    show decodeFrom position (Nat.digitChar (b.toNat / 16) :: Nat.digitChar (b.toNat % 16)
      :: bytes.flatMap encodeByte) = _
    rw [decodeFrom, digit_digitChar (high_lt b), digit_digitChar (low_lt b), ih]
    show Except.ok (UInt8.ofNat (16 * (b.toNat / 16) + b.toNat % 16) :: bytes) = _
    rw [hbyte]

theorem utf8Size_of_mem_encode {bytes : List UInt8} {c : Char}
    (h : c ∈ bytes.flatMap encodeByte) : c.utf8Size = 1 := by
  obtain ⟨b, _, hc⟩ := List.mem_flatMap.1 h
  have hc' : c = Nat.digitChar (b.toNat / 16) ∨ c = Nat.digitChar (b.toNat % 16) := by
    simpa [encodeByte] using hc
  rcases hc' with rfl | rfl
  · exact utf8Size_digitChar _ (high_lt b)
  · exact utf8Size_digitChar _ (low_lt b)

theorem length_flatMap_encodeByte (bytes : List UInt8) :
    (bytes.flatMap encodeByte).length = 2 * bytes.length := by
  induction bytes with
  | nil => rfl
  | cons b bytes ih =>
    have hb : (encodeByte b).length = 2 := rfl
    rw [List.flatMap_cons, List.length_append, ih, hb, List.length_cons]
    omega

theorem decode_encode (bytes : List UInt8) : decode (encode bytes) = .ok bytes := by
  have hsize : (encode bytes).utf8ByteSize = 2 * bytes.length := by
    unfold encode
    rw [utf8ByteSize_ofList fun c hc => utf8Size_of_mem_encode hc, length_flatMap_encodeByte]
  have heven : ¬ (encode bytes).utf8ByteSize % 2 = 1 := by omega
  unfold decode
  rw [if_neg heven]
  unfold encode
  rw [String.toList_ofList]
  exact decodeFrom_flatMap bytes 0

/-! ## What reads -/

/-- The digits, of either case. -/
def digits : List Char := "0123456789abcdefABCDEF".toList

theorem forall_digits {P : Char → Prop} [DecidablePred P]
    (h : (digits.all fun c => decide (P c)) = true) : ∀ c ∈ digits, P c := fun c hc =>
  of_decide_eq_true (List.all_eq_true.1 h c hc)

theorem map_digitChar_digitValue? :
    ∀ c ∈ digits, (digitValue? c).map Nat.digitChar = some c.toLower := forall_digits (by decide)

theorem all_digitValue?_lt : ∀ c ∈ digits, (digitValue? c).all (· < 16) = true :=
  forall_digits (by decide)

theorem mem_digits_of_le (count : Nat) {first c : Char}
    (hall : ∀ k, k ≤ count → Char.ofNat (first.toNat + k) ∈ digits)
    (hlo : first ≤ c) (hhi : c.toNat ≤ first.toNat + count) : c ∈ digits := by
  have hlo' : first.toNat ≤ c.toNat := hlo
  have hc := hall (c.toNat - first.toNat) (by omega)
  rwa [Nat.add_sub_cancel' hlo', Char.ofNat_toNat] at hc

theorem mem_digits_of_digitValue? {c : Char} {n : Nat} (h : digitValue? c = some n) :
    c ∈ digits := by
  unfold digitValue? at h
  split at h
  · rename_i hc
    exact mem_digits_of_le 9 (by decide) hc.1 hc.2
  split at h
  · rename_i hc
    exact mem_digits_of_le 5 (by decide) hc.1 hc.2
  split at h
  · rename_i hc
    exact mem_digits_of_le 5 (by decide) hc.1 hc.2
  · cases h

theorem digit_eq_ok {position n : Nat} {c : Char} (h : digit position c = .ok n) :
    c ∈ digits ∧ n < 16 ∧ Nat.digitChar n = c.toLower := by
  unfold digit at h
  split at h
  · rename_i m hm
    cases h
    have hc := mem_digits_of_digitValue? hm
    have hlt := all_digitValue?_lt c hc
    have hlower := map_digitChar_digitValue? c hc
    rw [hm] at hlt hlower
    exact ⟨hc, of_decide_eq_true hlt, Option.some.inj hlower⟩
  · cases h

theorem exists_digit {c : Char} (h : c ∈ digits) (position : Nat) :
    ∃ n, digit position c = .ok n := by
  obtain ⟨n, hn, _⟩ := Option.map_eq_some_iff.1 (map_digitChar_digitValue? c h)
  refine ⟨n, ?_⟩
  unfold digit
  rw [hn]

theorem encodeByte_ofNat {high low : Nat} (hhigh : high < 16) (hlow : low < 16) :
    encodeByte (UInt8.ofNat (16 * high + low)) = [Nat.digitChar high, Nat.digitChar low] := by
  have hlt : 16 * high + low < 256 := by omega
  have hbyte : (UInt8.ofNat (16 * high + low)).toNat = 16 * high + low :=
    UInt8.toNat_ofNat_of_lt' hlt
  unfold encodeByte
  rw [hbyte, Nat.mul_add_div (by decide), Nat.div_eq_of_lt hlow, Nat.add_zero,
    Nat.mul_add_mod, Nat.mod_eq_of_lt hlow]

theorem flatMap_of_decodeFrom : ∀ (cs : List Char) {position : Nat} {bytes : List UInt8},
    decodeFrom position cs = .ok bytes →
      (∀ c ∈ cs, c ∈ digits) ∧ bytes.flatMap encodeByte = cs.map Char.toLower
  | [], _, _, h => by
    cases h
    exact ⟨fun _ hc => (nomatch hc), rfl⟩
  | [_], _, _, h => by cases h
  | c :: d :: rest, position, bytes, h => by
    rw [decodeFrom] at h
    obtain ⟨high, hhigh, h⟩ := bind_eq_ok.1 h
    obtain ⟨low, hlow, h⟩ := bind_eq_ok.1 h
    obtain ⟨more, hmore, h⟩ := bind_eq_ok.1 h
    cases h
    obtain ⟨hc, hhigh16, hchigh⟩ := digit_eq_ok hhigh
    obtain ⟨hd, hlow16, hdlow⟩ := digit_eq_ok hlow
    obtain ⟨hrest, hflat⟩ := flatMap_of_decodeFrom rest hmore
    refine ⟨List.forall_mem_cons.2 ⟨hc, List.forall_mem_cons.2 ⟨hd, hrest⟩⟩, ?_⟩
    rw [List.flatMap_cons, encodeByte_ofNat hhigh16 hlow16, hflat, hchigh, hdlow]
    rfl

theorem exists_decodeFrom : ∀ (cs : List Char) (position : Nat), cs.length % 2 = 0 →
    (∀ c ∈ cs, c ∈ digits) → ∃ bytes, decodeFrom position cs = .ok bytes
  | [], _, _, _ => ⟨[], rfl⟩
  | [_], _, h, _ => by cases h
  | c :: d :: rest, position, h, hall => by
    obtain ⟨high, hhigh⟩ := exists_digit (hall c List.mem_cons_self) position
    obtain ⟨low, hlow⟩ :=
      exists_digit (hall d (List.mem_cons_of_mem _ List.mem_cons_self)) (position + 1)
    obtain ⟨more, hmore⟩ := exists_decodeFrom rest (position + 2)
      (by rw [List.length_cons, List.length_cons] at h; omega)
      fun e he => hall e (List.mem_cons_of_mem _ (List.mem_cons_of_mem _ he))
    refine ⟨UInt8.ofNat (16 * high + low) :: more, ?_⟩
    rw [decodeFrom, hhigh, hlow, hmore]
    rfl

theorem utf8Size_of_mem_digits : ∀ c ∈ digits, c.utf8Size = 1 := forall_digits (by decide)

/-- The bytes that a text reads as are written as it, in lower case. -/
theorem encode_of_decode {s : String} {bytes : List UInt8} (h : decode s = .ok bytes) :
    (∀ c ∈ s.toList, c ∈ digits) ∧ (encode bytes).toList = s.toList.map Char.toLower := by
  unfold decode at h
  split at h
  · cases h
  · unfold encode
    rw [String.toList_ofList]
    exact flatMap_of_decodeFrom s.toList h

/-- A text reads exactly when it is an even number of digits. -/
theorem exists_decode_iff {s : String} :
    (∃ bytes, decode s = .ok bytes) ↔ s.length % 2 = 0 ∧ ∀ c ∈ s.toList, c ∈ digits := by
  constructor
  · rintro ⟨bytes, h⟩
    obtain ⟨hdigits, hlower⟩ := encode_of_decode h
    have hlength := congrArg List.length hlower
    unfold encode at hlength
    rw [String.toList_ofList, length_flatMap_encodeByte, List.length_map, String.length_toList]
      at hlength
    exact ⟨by omega, hdigits⟩
  · rintro ⟨heven, hdigits⟩
    have hsize : s.utf8ByteSize = s.length := by
      rw [← String.ofList_toList (s := s), utf8ByteSize_ofList fun c hc => utf8Size_of_mem_digits c
        (hdigits c hc), String.length_ofList]
    unfold decode
    rw [if_neg (by omega)]
    exact exists_decodeFrom s.toList 0 (by rwa [String.length_toList]) hdigits

end Hex

end NodeRpc
