import NodeRpc.Proofs.Number.Truncation
import NodeRpc.Proofs.Schema.Records
import NodeRpc.Proofs.Schema.Unions

/-!
# Values of several shapes, exactly

Each type of several shapes takes the values of its shapes and no others: an integer that does not
fit is refused, and so is a float in place of an integer.  Only the guard against high fees takes
numbers that are not what it writes: it takes any whose whole part fits, as that whole part.

* `FeeGuard.ofInt?_wholePart`   the whole part that a fee guard takes is that of the number;
* `decode_eq_ok_iff`            for each type, what it decodes and to what;
* `UnionType.shapes_exact`      all of them, and that values read back.
-/

namespace NodeRpc

/-! ## Numbers -/

namespace Json

variable {v : Json} {n : Integer .int64}

theorem int64?_eq_some_iff : v.int64? = some n ↔ v = .ofInteger n := by
  constructor
  · intro h
    cases v with
    | number m =>
      cases m with
      | integer i lo hi =>
        have hi : n.value = i := Integer.ofInt?_eq_some_iff.1 h
        subst hi
        rfl
      | float x => cases h
    | _ => cases h
  · rintro rfl
    exact int64?_ofInteger n

end Json

namespace FeeGuard

/-- The whole part of a number fits the signed 32-bit range exactly when the integer part of its
value does, and is that: bringing the number into the 64-bit range first makes no difference. -/
theorem ofInt?_wholePart {n : JsonNumber} {rate : Integer .int32} :
    Integer.ofInt? .int32 (wholePart n) = some rate ↔ rate.value = truncate n.value := by
  rw [Integer.ofInt?_eq_some_iff]
  have hlo : -0x80000000 ≤ rate.value := rate.lo
  have hhi : rate.value ≤ 0x7fffffff := rate.hi
  cases n with
  | integer i lo hi =>
    have hvalue : truncate (JsonNumber.integer i lo hi).value = i := truncate_intCast i
    rw [hvalue]
    by_cases h : i ≤ IntWidth.int64.max
    · have hread : (JsonNumber.integer i lo hi).int64? = some ⟨i, lo, h⟩ :=
        Integer.ofInt?_eq_some_iff.2 rfl
      unfold wholePart
      rw [hread]
    · have hread : (JsonNumber.integer i lo hi).int64? = none := dif_neg fun hin => h hin.2
      unfold wholePart
      rw [hread]
      show rate.value = (Binary.ofInt .double i).clampWith _ _ _ ↔ _
      rw [Binary.clampWith_ofInt (Int.not_le.1 h) hi]
      simp only [IntWidth.max] at h ⊢
      omega
  | float x =>
    show rate.value = max IntWidth.int64.min (min IntWidth.int64.max x.truncated)
      ↔ rate.value = truncate x.value
    rw [x.truncated_eq]
    simp only [IntWidth.min, IntWidth.max]
    omega

end FeeGuard

/-! ## What is decoded -/

theorem DescriptorRange.decode_eq_ok_iff {v : Json} {r : DescriptorRange} :
    decode v = .ok r ↔ (∃ n, v = .ofInteger n ∧ r = single n)
      ∨ ∃ a b : Integer .int64, v = .array [.ofInteger a, .ofInteger b] ∧ r = pair a b := by
  constructor
  · intro h
    unfold decode at h
    split at h
    · rename_i n hn
      cases h
      exact .inl ⟨n, Json.int64?_eq_some_iff.1 hn, rfl⟩
    · split at h
      · rename_i a b
        split at h
        · rename_i m n hm hn
          cases h
          refine .inr ⟨m, n, ?_, rfl⟩
          rw [Json.int64?_eq_some_iff.1 hm, Json.int64?_eq_some_iff.1 hn]
        · cases h
      · cases h
  · rintro (⟨n, rfl, rfl⟩ | ⟨a, b, rfl, rfl⟩)
    · exact decode_encode (single n)
    · exact decode_encode (pair a b)

theorem HashOrHeight.decode_eq_ok_iff {v : Json} {b : HashOrHeight} :
    decode v = .ok b ↔ (∃ n, v = .ofInteger n ∧ b = height n) ∨ ∃ s, v = .string s ∧ b = hash s := by
  simp only [decode_eq_ok, Json.int64?_eq_some_iff]

theorem Timestamp.decode_eq_ok_iff {v : Json} {t : Timestamp} :
    decode v = .ok t ↔ (∃ n, v = .ofInteger n ∧ t = seconds n) ∨ v = .string "now" ∧ t = now := by
  constructor
  · intro h
    unfold decode at h
    split at h
    · rename_i n hn
      cases h
      exact .inl ⟨n, Json.int64?_eq_some_iff.1 hn, rfl⟩
    · split at h
      · rename_i s
        split at h
        · rename_i hs
          cases h
          exact .inr ⟨congrArg Json.string hs, rfl⟩
        · cases h
      · cases h
  · rintro (⟨n, rfl, rfl⟩ | ⟨rfl, rfl⟩)
    · exact decode_encode (seconds n)
    · exact decode_encode now

theorem FeeGuard.decode_eq_ok_iff {v : Json} {g : FeeGuard} :
    decode v = .ok g ↔ (∃ b, v = .bool b ∧ g = allowHighFees b)
      ∨ ∃ n rate, v = .number n ∧ rate.value = truncate n.value ∧ g = maxFeeRate rate := by
  constructor
  · intro h
    unfold decode at h
    split at h
    · rename_i b
      cases h
      exact .inl ⟨b, rfl, rfl⟩
    · rename_i n
      split at h
      · rename_i rate hrate
        cases h
        exact .inr ⟨n, rate, rfl, ofInt?_wholePart.1 hrate, rfl⟩
      · cases h
    · cases h
  · rintro (⟨b, rfl, rfl⟩ | ⟨n, rate, rfl, hrate, rfl⟩)
    · rfl
    · unfold decode
      dsimp only
      rw [ofInt?_wholePart.2 hrate]

theorem ScriptPubKey.decode_eq_ok_iff {v : Json} {s : ScriptPubKey} :
    decode v = .ok s ↔ (∃ hex, v = .string hex ∧ s = script hex)
      ∨ ∃ members a, v = .object members ∧ members.lookup "address" = some (.string a)
        ∧ s = address a := by
  constructor
  · intro h
    unfold decode at h
    split at h
    · rename_i hex
      cases h
      exact .inl ⟨hex, rfl, rfl⟩
    · rename_i members
      split at h
      · rename_i a ha
        cases h
        exact .inr ⟨members, a, rfl, ha, rfl⟩
      · cases h
      · cases h
    · cases h
  · rintro (⟨hex, rfl, rfl⟩ | ⟨members, a, rfl, ha, rfl⟩)
    · rfl
    · unfold decode
      dsimp only
      rw [ha]

theorem TemplateLimit.decode_eq_ok_iff {key : String} {v : Json} {l : TemplateLimit} :
    decode key v = .ok l ↔ (∃ b, v = .bool b ∧ l = flag b) ∨ ∃ n, v = .ofInteger n ∧ l = number n := by
  constructor
  · intro h
    unfold decode at h
    split at h
    · rename_i b
      cases h
      exact .inl ⟨b, rfl, rfl⟩
    · rename_i m
      split at h
      · rename_i n hn
        cases h
        exact .inr ⟨n, Json.int64?_eq_some_iff.1 hn, rfl⟩
      · cases h
    · cases h
  · rintro (⟨b, rfl, rfl⟩ | ⟨n, rfl, rfl⟩)
    · rfl
    · exact decode_encode key (number n)

theorem decodeSlot_lenient_eq_ok {α : Type} {decode : Json → Decoded α} {v : Json}
    {o : Option α} :
    decodeSlot decode v .lenient = .ok o ↔
      v = .null ∧ o = none ∨ v ≠ .null ∧ ∃ a, decode v = .ok a ∧ o = some a := by
  show (if v.isNull then Except.ok none else (decode v).map some) = .ok o ↔ _
  by_cases hv : v = .null
  · subst hv
    simp [Json.isNull, eq_comm]
  · have hnull : ¬ v.isNull = true := fun h => hv (Json.isNull_iff.1 h)
    rw [if_neg hnull, map_eq_ok]
    simp [hv, eq_comm]

/-- The limit of a block template is null, which leaves it unset, a flag or an integer. -/
theorem TemplateLimit.decodeSlot_eq_ok_iff {key : String} {v : Json} {o : Option TemplateLimit} :
    decodeSlot (decode key) v .lenient = .ok o ↔ v = .null ∧ o = none
      ∨ (∃ b, v = .bool b ∧ o = some (flag b)) ∨ ∃ n, v = .ofInteger n ∧ o = some (number n) := by
  rw [decodeSlot_lenient_eq_ok]
  refine or_congr_right ?_
  constructor
  · rintro ⟨_, l, hl, rfl⟩
    rcases decode_eq_ok_iff.1 hl with ⟨b, rfl, rfl⟩ | ⟨n, rfl, rfl⟩
    · exact .inl ⟨b, rfl, rfl⟩
    · exact .inr ⟨n, rfl, rfl⟩
  · rintro (⟨b, rfl, rfl⟩ | ⟨n, rfl, rfl⟩)
    · exact ⟨fun h => (nomatch h), _, decode_encode key (flag b), rfl⟩
    · exact ⟨fun h => (nomatch h), _, decode_encode key (number n), rfl⟩

/-! ## The family -/

namespace UnionType

/-- The values of several shapes.

A range is an integer or a list of two, a block an integer or a text, a timestamp an integer or one
word, a guard against high fees a flag or a number whose whole part is in the signed 32-bit range, a
script a text or an object with a text as its address, and a limit of a block template null, a flag
or an integer; the integers are those of the signed 64-bit range.  Nothing else is decoded, and what
is decoded tells its shape.  All values read back, but for a fee guard that says nothing: it reads as
the flag `false`. -/
theorem shapes_exact :
    -- what is decoded
    (∀ v r, DescriptorRange.decode v = .ok r ↔
      (∃ n, v = .ofInteger n ∧ r = .single n)
      ∨ ∃ a b : Integer .int64, v = .array [.ofInteger a, .ofInteger b] ∧ r = .pair a b)
    ∧ (∀ v b, HashOrHeight.decode v = .ok b ↔
      (∃ n, v = .ofInteger n ∧ b = .height n) ∨ ∃ s, v = .string s ∧ b = .hash s)
    ∧ (∀ v t, Timestamp.decode v = .ok t ↔
      (∃ n, v = .ofInteger n ∧ t = .seconds n) ∨ v = .string "now" ∧ t = .now)
    ∧ (∀ v g, FeeGuard.decode v = .ok g ↔
      (∃ b, v = .bool b ∧ g = .allowHighFees b)
      ∨ ∃ n rate, v = .number n ∧ rate.value = truncate n.value ∧ g = .maxFeeRate rate)
    ∧ (∀ v s, ScriptPubKey.decode v = .ok s ↔
      (∃ hex, v = .string hex ∧ s = .script hex)
      ∨ ∃ members a, v = .object members ∧ members.lookup "address" = some (.string a)
        ∧ s = .address a)
    ∧ (∀ key v (o : Option TemplateLimit),
      decodeSlot (TemplateLimit.decode key) v .lenient = .ok o ↔
        v = .null ∧ o = none ∨ (∃ b, v = .bool b ∧ o = some (.flag b))
        ∨ ∃ n, v = .ofInteger n ∧ o = some (.number n))
    -- what reads back
    ∧ (∀ r, DescriptorRange.decode (DescriptorRange.encode r) = .ok r)
    ∧ (∀ b, HashOrHeight.decode (HashOrHeight.encode b) = .ok b)
    ∧ (∀ t, Timestamp.decode (Timestamp.encode t) = .ok t)
    ∧ (∀ g, FeeGuard.decode (FeeGuard.encode g)
        = .ok (if g = .unset then .allowHighFees false else g))
    ∧ (∀ s, ScriptPubKey.decode (ScriptPubKey.encode s) = .ok s)
    ∧ ∀ key default isBlank (o : Option TemplateLimit),
      Rule.lenient.slotOf key (TemplateLimit.decode key) default
        (Rule.lenient.shown TemplateLimit.encode isBlank o) = .ok o := by
  refine ⟨fun v r => DescriptorRange.decode_eq_ok_iff, fun v b => HashOrHeight.decode_eq_ok_iff,
    fun v t => Timestamp.decode_eq_ok_iff, fun v g => FeeGuard.decode_eq_ok_iff,
    fun v s => ScriptPubKey.decode_eq_ok_iff, fun key v o => TemplateLimit.decodeSlot_eq_ok_iff,
    DescriptorRange.decode_encode, HashOrHeight.decode_encode, Timestamp.decode_encode,
    fun g => ?_, ScriptPubKey.decode_encode, fun key default isBlank o => ?_⟩
  · rw [FeeGuard.decode_encode]
    by_cases hg : g = .unset
    · subst hg
      rfl
    · rw [if_neg hg, FeeGuard.settle_eq_self hg]
  · cases o with
    | none => rfl
    | some l =>
      refine TemplateLimit.decodeSlot_eq_ok_iff.2 (.inr ?_)
      cases l with
      | number n => exact .inr ⟨n, rfl, rfl⟩
      | flag b => exact .inl ⟨b, rfl, rfl⟩

end UnionType

/-- The least integer beyond the range is no height, and the greatest integer no fee rate. -/
example :
    HashOrHeight.decode (.number (.integer 0x8000000000000000 (by decide) (by decide)))
      = .error (.union .height)
    ∧ FeeGuard.decode (.number (.integer 0xffffffffffffffff (by decide) (by decide)))
      = .error (.union .feeRate) := by
  decide +kernel

end NodeRpc
