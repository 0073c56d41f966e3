import NodeRpc.Catalog.Types
import NodeRpc.Proofs.Schema.Canonical

/-!
# The option objects of the catalog

Some commands take their options as one object, and decoded transactions are objects with members
that may be absent.

* `Catalog.optionObjects_canonical`   each of them has one canonical encoding.
-/

namespace NodeRpc.Catalog

def optionObjects : List Schema := [
  fundingOptions, psbtOptions, templateRequest, submitOptions, importRequest, spentWitnessOutput,
  decodedInput, decodedScript, rawTransaction]

theorem all_optionObjects :
    optionObjects.all (fun s => s.regular && !s.pays) = true := by decide +kernel

/-- Option objects have one canonical encoding.

What an object without repeated keys decodes to, if it does, depends neither on the order of its
members nor on those that say nothing: undeclared ones, null where it leaves a member unset, and an
empty text or list or the integer zero where blanks are left out.

What was decoded is encoded as an object whose members stand in declared order.  A member that is
always written is among them, as null if it may be unset and is; one that may be left out is if it
is set, or not blank.  And the encoding decodes to the same value again, as does that of every value
whose floats are finite. -/
theorem optionObjects_canonical {name : String} {ms : Members}
    (h : Schema.record name ms ∈ optionObjects) :
    (∀ given spared rest : List (String × Json), (given.map Prod.fst).Nodup →
      given.Perm (spared ++ rest) → (∀ m ∈ spared, ms.Idle m) → ∀ v : ms.Val,
        (Schema.record name ms).decode (.object given) = Except.ok (ε := DecodeError) v
          ↔ (Schema.record name ms).decode (.object rest) = Except.ok (ε := DecodeError) v)
    ∧ (∀ (given : List (String × Json)) (v : ms.Val),
      (Schema.record name ms).decode (.object given) = Except.ok (ε := DecodeError) v →
        ∃ members, (Schema.record name ms).encode v = .object members
          ∧ (members.map Prod.fst).Sublist ms.keys
          ∧ ms.Shows v members
          ∧ (Schema.record name ms).decode (.object members)
            = Except.ok (ε := DecodeError) v)
    ∧ ∀ v : ms.Val, (Schema.record name ms).FloatsFinite v →
      (Schema.record name ms).decode ((Schema.record name ms).encode v)
        = Except.ok (ε := DecodeError) v := by
  obtain ⟨hregular, hpays⟩ := Bool.and_eq_true_iff.1 (List.all_eq_true.1 all_optionObjects _ h)
  have hback : ∀ v : ms.Val, (Schema.record name ms).FloatsFinite v →
      (Schema.record name ms).decode ((Schema.record name ms).encode v)
        = Except.ok (ε := DecodeError) v := fun v hfinite =>
    Schema.decode_encode (.record name ms) hregular v hfinite
      (Schema.amountsSurvive_of_not_pays (.record name ms) (by simpa using hpays) v)
  refine ⟨fun given spared rest hnodup hperm hidle v =>
    Schema.decode_object_of_perm hnodup hperm hidle, fun given v hv => ?_, hback⟩
  refine ⟨ms.encode v, rfl, ms.keys_encode_sublist v, ?_, ?_⟩
  · exact Members.shows_encode (Schema.keys_nodup hregular) v
  · exact hback v (Schema.floatsFinite_of_decode hregular hv)

/-- What goes with a submitted block: an empty work identifier and a foreign member say nothing. -/
theorem optionObjects_canonical_submitOptions :
    submitOptions ∈ optionObjects ∧ ∀ v : submitOptions.Val,
      submitOptions.decode (.object [("vendor", .bool true), ("workid", .string "")]) = .ok v
        ↔ submitOptions.decode (.object []) = .ok v := by
  have hmem : submitOptions ∈ optionObjects := by decide +kernel
  have hidle : ∀ m ∈ [("workid", Json.string ""), ("vendor", Json.bool true)],
      (Members.ofList [("workid", .elided, .string)]).Idle m := by
    rw [List.forall_mem_cons, List.forall_mem_singleton]
    exact ⟨⟨fun _ => .inr ⟨rfl, rfl⟩, trivial⟩, Members.idle_of_not_mem _ _ (by decide)⟩
  exact ⟨hmem, (optionObjects_canonical hmem).1 _ _ [] (by decide) (.swap _ _ _) hidle⟩

end NodeRpc.Catalog
