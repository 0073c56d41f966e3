import NodeRpc.Proofs.Catalog.RoundTrip
import NodeRpc.Proofs.Schema.Outputs

/-!
# Payments out of range

No payment is refused for its amount: one that does not fit is taken for the nearest bound.

* `Standard.command_of_outputs`   inputs and outputs that are decoded make a command;
* `Standard.payments_clamped`     a payment out of range is decoded as one of the bound, and so are
                                  requests and arguments that contain it.
-/

namespace NodeRpc

open Catalog

/-! ## Inputs and outputs -/

section Outputs

variable {inputs outputs : List Json} {is : (Schema.list psbtInput).Val}
  {os : (Schema.list (.union .psbtOutput)).Val}

abbrev outputSlots (inputs outputs : List Json) : List (Option Json) :=
  [some (.array inputs), some (.array outputs), none, none, none]

theorem Command.ofSlots_outputs (hi : (Schema.list psbtInput).decode (.array inputs) = .ok is)
    (ho : (Schema.list (.union .psbtOutput)).decode (.array outputs) = .ok os) :
    ofSlots walletCreateFundedPsbt (outputSlots inputs outputs)
      = .ok ⟨walletCreateFundedPsbt, (is, os, none, none, none, ())⟩ := by
  have hrow : Row.ofSlots 0 walletCreateFundedPsbt.fields (outputSlots inputs outputs)
      = .ok (is, os, none, none, none, ()) :=
    Row.ofSlots_eq_ok.2 ⟨hi, Row.ofSlots_eq_ok.2 ⟨ho, rfl⟩⟩
  exact ofSlots_eq_ok.2 ⟨_, hrow, rfl⟩

theorem Field.coerce_array {f : Field} {items : List Json} (h : f.accepts (.array items) = true)
    (index : Nat) : f.coerce index (.array items) = .ok (some (.array items)) := by
  unfold coerce
  rw [if_neg (by simp [leavesUnset])]
  exact if_pos h

theorem coerceArgs_outputs (hi : (Schema.list psbtInput).decode (.array inputs) = .ok is)
    (ho : (Schema.list (.union .psbtOutput)).decode (.array outputs) = .ok os) :
    coerceArgs 0 walletCreateFundedPsbt.fields [.array inputs, .array outputs]
      = .ok (outputSlots inputs outputs) :=
  bind_eq_ok.2 ⟨_, Field.coerce_array (isOk_iff.2 ⟨is, hi⟩) 0,
    bind_eq_ok.2 ⟨_, bind_eq_ok.2 ⟨_, Field.coerce_array (isOk_iff.2 ⟨os, ho⟩) 1,
      bind_eq_ok.2 ⟨_, rfl, rfl⟩⟩, rfl⟩⟩

theorem Standard.command_of_outputs
    (hi : (Schema.list psbtInput).decode (.array inputs) = .ok is)
    (ho : (Schema.list (.union .psbtOutput)).decode (.array outputs) = .ok os) :
    let c : Command := ⟨walletCreateFundedPsbt, (is, os, none, none, none, ())⟩
    (∀ version id, unmarshalRequest
      ⟨version, "walletcreatefundedpsbt", [.array inputs, .array outputs], id⟩ = .ok c)
    ∧ newCommand "walletcreatefundedpsbt" [.array inputs, .array outputs] = .ok c := by
  intro c
  obtain ⟨r, d, hr, hsound, hd, htype, hmethod, _⟩ := descriptor_of_mem (c := c)
    (by show walletCreateFundedPsbt ∈ _; decide +kernel)
  change d.type = walletCreateFundedPsbt at htype
  change d.method = "walletcreatefundedpsbt" at hmethod
  have hfields : d.fields = walletCreateFundedPsbt.fields := congrArg CommandType.fields htype
  have hlookup : r.lookup "walletcreatefundedpsbt" = .ok d := by
    rw [← hmethod]
    exact hsound.lookup_of_mem hd
  have hcount : d.checkCount 2 = .ok () := by
    unfold Descriptor.checkCount
    rw [hsound.required_eq hd, hfields]
    rfl
  have hcommand : Command.ofSlots d.type (outputSlots inputs outputs) = .ok c := by
    rw [htype]
    exact Command.ofSlots_outputs hi ho
  refine ⟨fun version id => ?_, ?_⟩
  · refine bind_eq_ok.2 ⟨r, hr, Registry.unmarshalRequest_eq_ok.2 ⟨d, hlookup, hcount, ?_⟩⟩
    rw [hsound.defaults_eq hd, hfields]
    exact hcommand
  · have hslots := coerceArgs_outputs hi ho
    rw [← hfields] at hslots
    exact bind_eq_ok.2 ⟨r, hr,
      Registry.newCommand_eq_ok.2 ⟨d, _, hlookup, hcount, hslots, hcommand⟩⟩

end Outputs

/-! ## Payments -/

namespace Standard

/-- A payment of an amount out of range is decoded as a payment of the nearest bound, under any key.
So are requests and arguments that contain it, anywhere among outputs that are decoded. -/
theorem payments_clamped (key : String) {n : JsonNumber} {i : ℤ}
    (hi : roundAway (n.value * 10 ^ 8) = i)
    (h : i < IntWidth.int64.min ∨ IntWidth.int64.max < i) :
    let bound : Integer .int64 := .clamp .int64 i
    let output : Json := .object [(key, .number n)]
    (bound.value = if i < 0 then IntWidth.int64.min else IntWidth.int64.max)
    ∧ PsbtOutput.decode output = .ok (.payment key bound)
    ∧ ∀ (inputs before after : List Json) (is : (Schema.list psbtInput).Val)
        (earlier later : List PsbtOutput),
      (Schema.list psbtInput).decode (.array inputs) = .ok is →
      before.mapM PsbtOutput.decode = .ok earlier → after.mapM PsbtOutput.decode = .ok later →
        let args : List Json := [.array inputs, .array (before ++ output :: after)]
        let c : Command := ⟨walletCreateFundedPsbt,
          (is, earlier ++ .payment key bound :: later, none, none, none, ())⟩
        (∀ version id, unmarshalRequest ⟨version, "walletcreatefundedpsbt", args, id⟩ = .ok c)
        ∧ newCommand "walletcreatefundedpsbt" args = .ok c := by
  intro bound output
  have hdecode : PsbtOutput.decode output = .ok (.payment key bound) := by
    rw [PsbtOutput.decode_number, PsbtOutput.satoshi_of_out_of_range hi h]
  refine ⟨?_, hdecode, fun inputs before after is earlier later his hearlier hlater => ?_⟩
  · rcases h with hlow | hhigh
    · rw [if_pos (hlow.trans_le IntWidth.int64.min_nonpos)]
      exact Integer.value_clamp_of_le_min hlow.le
    · rw [if_neg (not_lt.2 (IntWidth.int64.max_nonneg.trans hhigh.le))]
      exact Integer.value_clamp_of_max_le hhigh.le
  · refine command_of_outputs his ?_
    show (before ++ output :: after).mapM PsbtOutput.decode = _
    rw [List.mapM_append, List.mapM_cons]
    exact bind_eq_ok.2 ⟨_, hearlier, bind_eq_ok.2 ⟨_, bind_eq_ok.2 ⟨_, hdecode,
      bind_eq_ok.2 ⟨_, hlater, rfl⟩⟩, rfl⟩⟩

/-- Whole coins, the fewest that do not fit. -/
def excess : JsonNumber := .integer 92233720369 (by decide) (by decide)

theorem roundAway_excess : roundAway (excess.value * 10 ^ 8) = 9223372036900000000 := by
  refine roundAway_eq ?_
  show |((92233720369 : ℤ) : ℚ) * 10 ^ 8 - _| < _
  norm_num

theorem max_lt_excess : IntWidth.int64.max < roundAway (excess.value * 10 ^ 8) := by
  rw [roundAway_excess]
  decide

/-- A payment of more coins than fit is taken for one of the greatest amount. -/
theorem payments_clamped_coins :
    let output : PsbtOutput := .payment "a" ⟨IntWidth.int64.max, by decide, by decide⟩
    IntWidth.int64.max < roundAway (excess.value * 10 ^ 8)
    ∧ PsbtOutput.decode (.object [("a", .number excess)]) = .ok output
    ∧ newCommand "walletcreatefundedpsbt" [.array [], .array [.object [("a", .number excess)]]]
      = .ok ⟨walletCreateFundedPsbt,
        (([] : List _), ([output] : List _), none, none, none, ())⟩ := by
  intro output
  have hlarge : IntWidth.int64.max < 9223372036900000000 := roundAway_excess ▸ max_lt_excess
  obtain ⟨_, hdecode, hall⟩ := payments_clamped "a" roundAway_excess (.inr hlarge)
  exact ⟨max_lt_excess, hdecode, (hall [] [] [] [] [] [] rfl rfl rfl).2⟩

/-- So payments out of range are not refused. -/
theorem not_payments_refused :
    ¬ ∀ (key : String) (n : JsonNumber),
      roundAway (n.value * 10 ^ 8) < IntWidth.int64.min
          ∨ IntWidth.int64.max < roundAway (n.value * 10 ^ 8) →
        ∃ e, PsbtOutput.decode (.object [(key, .number n)]) = .error e := by
  intro h
  obtain ⟨e, he⟩ := h "a" excess (.inr max_lt_excess)
  rw [PsbtOutput.decode_number] at he
  cases he

end Standard

end NodeRpc
