import NodeRpc.Proofs.Number.Operations
import NodeRpc.Proofs.Schema.Unions

/-!
# Outputs of partially signed transactions

An output is an object of one member.  The type of the member's value tells a payment from data, not
its key: a payment may go to an address that is called `data`.

* `PsbtOutput.outputs_exact`             what is decoded, and that data and addresses read back;
* `PsbtOutput.amount_exact`              amounts up to all the money there is read back;
* `PsbtOutput.satoshi_of_out_of_range`   amounts out of range are read as the nearest bound.

An amount is written as a quotient and read as a product, and each is rounded.  For all the money
there is, the two errors add up to less than half a satoshi, and the nearest integer is taken at the
end.
-/

namespace NodeRpc

namespace PsbtOutput

variable {key : String} {v : Json} {o : PsbtOutput}

/-! ## Shapes -/

theorem decode_number (key : String) (n : JsonNumber) :
    decode (.object [(key, .number n)]) = .ok (payment key (satoshi n.toDouble)) := rfl

theorem decode_data_eq_ok {s : String} :
    decode (.object [("data", .string s)]) = .ok o
      ↔ ∃ bytes, Hex.decode s = .ok bytes ∧ o = data bytes := by
  unfold decode decodeMember
  dsimp only
  rw [if_pos rfl]
  cases hbytes : Hex.decode s with
  | error e => exact ⟨fun h => (nomatch h), fun ⟨_, hb, _⟩ => (nomatch hb)⟩
  | ok bytes =>
    constructor
    · intro h
      cases h
      exact ⟨bytes, rfl, rfl⟩
    · rintro ⟨_, hb, rfl⟩
      cases hb
      rfl

theorem shape_of_decode (h : decode v = .ok o) :
    (∃ key n, v = .object [(key, .number n)]) ∨ ∃ s, v = .object [("data", .string s)] := by
  unfold decode at h
  split at h
  · rename_i key w
    unfold decodeMember at h
    split at h
    · exact .inl ⟨_, _, rfl⟩
    · split at h
      · rename_i s hkey
        exact .inr ⟨s, by rw [hkey]⟩
      · cases h
    · cases h
  · cases h
  · cases h

/-! ## Amounts -/

theorem encode_payment {amount : Integer .int64} {x : Finite .double}
    (h : coins amount = .finite x) (address : String) :
    encode (payment address amount) = .object [(address, .number (.float x))] := by
  show Json.object [(address, .ofDouble (coins amount))] = _
  rw [h]
  rfl

theorem satoshiPerCoin_eq : (satoshiPerCoin : ℚ) = 10 ^ 8 := by norm_num [satoshiPerCoin]

theorem natAbs_lt (amount : Integer .int64) : amount.value.natAbs < 2 ^ 64 := by
  have hlo := amount.lo
  have hhi := amount.hi
  simp only [IntWidth.min, IntWidth.max] at hlo hhi
  omega

theorem moderate_satoshi {y : ℚ} (amount : Integer .int64)
    (h : |y - amount.value| ≤ |(amount.value : ℚ)| / 2) : Moderate y :=
  .of_near h (fun hne => by linarith [one_le_abs_intCast hne]) (abs_intCast_lt (natAbs_lt amount))

theorem moderate_coins {y : ℚ} (amount : Integer .int64)
    (h : |y - amount.value| ≤ |(amount.value : ℚ)| / 2) : Moderate (y / satoshiPerCoin) := by
  have hsize := abs_intCast_lt (natAbs_lt amount)
  have hdiv (q : ℚ) : |q / satoshiPerCoin| = |q| / 10 ^ 8 := by
    rw [satoshiPerCoin_eq, abs_div, abs_of_pos (by norm_num : (0 : ℚ) < 10 ^ 8)]
  refine .of_near (q := amount.value / satoshiPerCoin) ?_ ?_ ?_
  · rw [← sub_div, hdiv, hdiv]
    linarith
  · intro hne
    have hone := one_le_abs_intCast (div_ne_zero_iff.1 hne).1
    rw [hdiv]
    linarith
  · rw [hdiv]
    linarith

/-- Coins are the quotient of the amount as a float, rounded. -/
theorem coins_approximates {y : Finite .double} {amount : Integer .int64}
    (hy : Binary.ofInt .double amount.value = .finite y)
    (h : |y.value - amount.value| ≤ |(amount.value : ℚ)| / 2) :
    (coins amount).Approximates (y.value / satoshiPerCoin) := by
  unfold coins
  rw [hy]
  exact Binary.divide_approximates y (by decide) (moderate_coins amount h)

theorem exists_coins (amount : Integer .int64) : ∃ x, coins amount = .finite x := by
  obtain ⟨y, hy, hnear⟩ := Binary.ofInt_approximates .double
    (Nat.lt_trans (natAbs_lt amount) (by decide))
  have hhalf : |y.value - amount.value| ≤ |(amount.value : ℚ)| / 2 := by
    refine le_trans hnear ?_
    gcongr
    norm_num [FloatFormat.precision]
  obtain ⟨x, hx, -⟩ := coins_approximates hy hhalf
  exact ⟨x, hx⟩

theorem satoshi_eq {c : Binary .double} {y : Finite .double}
    (h : c.scale satoshiPerCoin = .finite y) :
    satoshi c = .clamp .int64 (roundAway y.value) := by
  unfold satoshi
  rw [h, ← Finite.rounded_eq]
  refine Integer.ext ?_
  show max _ (min _ (max _ (min _ _))) = max _ (min _ _)
  simp only [IntWidth.min, IntWidth.max]
  omega

/-! ## Amounts out of range -/

/-- A number of coins that makes `2 ^ 63` satoshi, or less than half a step of a float below it, is
read as the bound on its side. -/
theorem satoshi_of_large {x : Finite .double}
    (h : (2 ^ 54 - 1) * 2 ^ 9 < |x.value| * satoshiPerCoin) :
    satoshi (.finite x) = .clamp .int64 (x.signed (2 ^ 63)) := by
  rcases Binary.scale_of_lt x h with hscale | ⟨y, hscale, hnegative, hlarge⟩
  · unfold satoshi Finite.signed
    rw [hscale]
    cases x.negative <;> rfl
  · change 2 ^ 63 ≤ |y.value| at hlarge
    have hround : 2 ^ 63 ≤ roundAway |y.value| := by
      rw [le_roundAway_iff (by norm_num)]
      push_cast
      linarith
    rw [satoshi_eq hscale, y.value_eq_signed, hnegative]
    unfold Finite.signed
    refine Integer.ext ?_
    cases x.negative with
    | true =>
      show (Integer.clamp .int64 (roundAway (-|y.value|))).value = IntWidth.int64.min
      rw [roundAway_neg]
      refine Integer.value_clamp_of_le_min ?_
      simp only [IntWidth.min]
      omega
    | false =>
      refine Integer.value_clamp_of_max_le ?_
      show IntWidth.int64.max ≤ roundAway |y.value|
      simp only [IntWidth.max]
      omega

theorem exists_toDouble {n : JsonNumber} (h : (2 ^ 54 - 1) * 2 ^ 9 < |n.value| * satoshiPerCoin) :
    ∃ x, n.toDouble = .finite x ∧ x.negative = decide (n.value < 0)
      ∧ (2 ^ 54 - 1) * 2 ^ 9 < |x.value| * satoshiPerCoin := by
  have hsign {x : Finite .double} (hx : (2 ^ 54 - 1) * 2 ^ 9 < |x.value| * satoshiPerCoin) :
      x.negative = decide (x.value < 0) := by
    refine Finite.negative_eq fun hzero => ?_
    rw [hzero, abs_zero, zero_mul] at hx
    norm_num at hx
  cases n with
  | float x => exact ⟨x, rfl, hsign h, h⟩
  | integer i lo hi =>
    rcases Nat.lt_or_ge i.natAbs (2 ^ 53) with hsmall | hlarge
    · obtain ⟨x, hx, hexact⟩ := Binary.ofInt_of_lt .double hsmall
      change _ < |(i : ℚ)| * _ at h
      rw [← hexact] at h
      refine ⟨x, hx, ?_, h⟩
      rw [hsign h, hexact]
      rfl
    · obtain ⟨x, hx, hnegative, hvalue⟩ := Binary.ofInt_of_le .double hlarge (by omega)
      refine ⟨x, hx, ?_, ?_⟩
      · rw [hnegative, decide_eq_decide]
        exact Int.cast_lt_zero.symm
      · rw [satoshiPerCoin_eq]
        linarith

theorem satoshi_toDouble_of_large {n : JsonNumber}
    (h : (2 ^ 54 - 1) * 2 ^ 9 < |n.value| * satoshiPerCoin) :
    satoshi n.toDouble = .clamp .int64 (if n.value < 0 then -2 ^ 63 else 2 ^ 63) := by
  obtain ⟨x, hx, hnegative, hlarge⟩ := exists_toDouble h
  rw [hx, satoshi_of_large hlarge]
  unfold Finite.signed
  rw [hnegative]
  simp only [decide_eq_true_eq]
  rfl

/-- So a number of coins that makes an amount out of range is read as the nearest bound. -/
theorem satoshi_of_out_of_range {n : JsonNumber} {i : ℤ} (hi : roundAway (n.value * 10 ^ 8) = i)
    (h : i < IntWidth.int64.min ∨ IntWidth.int64.max < i) :
    satoshi n.toDouble = .clamp .int64 i := by
  rcases h with hlow | hhigh
  · have hround : 2 ^ 63 + 1 ≤ roundAway (-(n.value * 10 ^ 8)) := by
      change i < -0x8000000000000000 at hlow
      rw [roundAway_neg]
      omega
    have hvalue := (le_roundAway_iff (by norm_num)).1 hround
    push_cast at hvalue
    have hneg : n.value < 0 := by linarith
    rw [satoshi_toDouble_of_large (by rw [satoshiPerCoin_eq, abs_of_neg hneg]; linarith),
      if_pos hneg]
    refine Integer.ext ?_
    rw [Integer.value_clamp_of_le_min (by decide), Integer.value_clamp_of_le_min hlow.le]
  · have hround : 2 ^ 63 ≤ roundAway (n.value * 10 ^ 8) := by
      change 0x7fffffffffffffff < i at hhigh
      omega
    have hvalue := (le_roundAway_iff (by norm_num)).1 hround
    push_cast at hvalue
    have hpos : 0 < n.value := by linarith
    rw [satoshi_toDouble_of_large (by rw [satoshiPerCoin_eq, abs_of_pos hpos]; linarith),
      if_neg (not_lt.2 hpos.le)]
    refine Integer.ext ?_
    rw [Integer.value_clamp_of_max_le (by decide), Integer.value_clamp_of_max_le hhigh.le]

/-! ## Main results -/

/-- What is decoded is a payment to any key, or data in digits of either case; data reads back, and
so does the address of any payment. -/
theorem outputs_exact :
    (∀ v, (∃ o, decode v = .ok o) ↔
        (∃ key n, v = .object [(key, .number n)])
        ∨ ∃ s, v = .object [("data", .string s)] ∧ s.length % 2 = 0
          ∧ ∀ c ∈ s.toList, c ∈ Hex.digits)
      ∧ (∀ key n, decode (.object [(key, .number n)]) = .ok (payment key (satoshi n.toDouble)))
      ∧ (∀ s o, decode (.object [("data", .string s)]) = .ok o →
          ∃ bytes, o = data bytes ∧ (Hex.encode bytes).toList = s.toList.map Char.toLower)
      ∧ (∀ bytes, decode (encode (data bytes)) = .ok (data bytes))
      ∧ ∀ address amount, ∃ amount',
          decode (encode (payment address amount)) = .ok (payment address amount') := by
  refine ⟨fun v => ⟨?_, ?_⟩, decode_number, ?_, ?_, ?_⟩
  · rintro ⟨o, h⟩
    obtain hnumber | ⟨s, rfl⟩ := shape_of_decode h
    · exact .inl hnumber
    · obtain ⟨bytes, hbytes, -⟩ := decode_data_eq_ok.1 h
      exact .inr ⟨s, rfl, Hex.exists_decode_iff.1 ⟨bytes, hbytes⟩⟩
  · rintro (⟨key, n, rfl⟩ | ⟨s, rfl, hs⟩)
    · exact ⟨_, decode_number key n⟩
    · obtain ⟨bytes, hbytes⟩ := Hex.exists_decode_iff.2 hs
      exact ⟨_, decode_data_eq_ok.2 ⟨bytes, hbytes, rfl⟩⟩
  · intro s o h
    obtain ⟨bytes, hbytes, rfl⟩ := decode_data_eq_ok.1 h
    exact ⟨bytes, rfl, (Hex.encode_of_decode hbytes).2⟩
  · intro bytes
    exact decode_data_eq_ok.2 ⟨bytes, Hex.decode_encode bytes, rfl⟩
  · intro address amount
    obtain ⟨x, hx⟩ := exists_coins amount
    refine ⟨satoshi (.finite x), ?_⟩
    rw [encode_payment hx]
    exact decode_number address (.float x)

/-- An amount of at most 21 million coins is written as a number within the precision of a float of
it, and reads back as the same amount. -/
theorem amount_exact (address : String) {amount : Integer .int64}
    (h : |amount.value| ≤ 2100000000000000) :
    ∃ x : Finite .double, encode (payment address amount) = .object [(address, .number (.float x))]
      ∧ |x.value - amount.value / 10 ^ 8| ≤ |(amount.value / 10 ^ 8 : ℚ)| / 2 ^ 53
      ∧ decode (encode (payment address amount)) = .ok (payment address amount) := by
  have hsmall : amount.value.natAbs < 2 ^ 53 := by
    rw [Int.abs_eq_natAbs] at h
    omega
  obtain ⟨y, hy, hexact⟩ := Binary.ofInt_of_lt .double hsmall
  have hmax : |(amount.value : ℚ)| ≤ 2100000000000000 := by exact_mod_cast h
  obtain ⟨x, hx, hquotient⟩ := coins_approximates hy (by
    rw [hexact, sub_self, abs_zero]
    positivity)
  rw [hexact, satoshiPerCoin_eq] at hquotient
  change _ ≤ _ / 2 ^ 53 at hquotient
  -- the first error, as satoshi
  have hfirst : |x.value * satoshiPerCoin - amount.value| ≤ |(amount.value : ℚ)| / 2 ^ 53 := by
    have hscaled : x.value * satoshiPerCoin - amount.value
        = (x.value - amount.value / 10 ^ 8) * 10 ^ 8 := by
      rw [satoshiPerCoin_eq]
      ring
    rw [hscaled, abs_mul, abs_of_pos (by norm_num : (0 : ℚ) < 10 ^ 8)]
    rw [abs_div, abs_of_pos (by norm_num : (0 : ℚ) < 10 ^ 8)] at hquotient
    linarith
  have hmoderate : Moderate (x.value * satoshiPerCoin) :=
    moderate_satoshi amount (by linarith [abs_nonneg (amount.value : ℚ)])
  obtain ⟨z, hz, hproduct⟩ := Binary.scale_approximates x satoshiPerCoin hmoderate
  change _ ≤ _ / 2 ^ 53 at hproduct
  have hnear : |z.value - amount.value| < 1 / 2 := by
    have hsize := abs_sub_abs_le_abs_sub (x.value * satoshiPerCoin) amount.value
    have htriangle := abs_sub_le z.value (x.value * satoshiPerCoin) amount.value
    calc |z.value - amount.value|
        ≤ (|(amount.value : ℚ)| + |(amount.value : ℚ)| / 2 ^ 53) / 2 ^ 53
            + |(amount.value : ℚ)| / 2 ^ 53 := by linarith
      _ < 1 / 2 := by linarith
  refine ⟨x, encode_payment hx address, hquotient, ?_⟩
  rw [encode_payment hx, decode_number, JsonNumber.toDouble_float, satoshi_eq hz,
    roundAway_eq hnear, Integer.clamp_value]

/-- All the money there is, to an address that is called `data`. -/
theorem amount_exact_limit :
    let amount : Integer .int64 := ⟨2100000000000000, by decide, by decide⟩
    |amount.value| ≤ 2100000000000000
      ∧ decode (encode (payment "data" amount)) = .ok (payment "data" amount) := by
  intro amount
  have h : |amount.value| ≤ 2100000000000000 := by decide
  obtain ⟨_, _, _, hdecode⟩ := amount_exact "data" h
  exact ⟨h, hdecode⟩

end PsbtOutput

end NodeRpc
