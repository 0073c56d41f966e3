import NodeRpc.Catalog.Standard
import NodeRpc.Proofs.Command.Arguments
import NodeRpc.Proofs.Registry.Runs

/-!
# The tables of the catalog

What holds of every command type of the catalog, checked by evaluation, and what the standard
registry holds.

* `Catalog.sound_of_mem`  what the check of the tables shows;
* `Standard.registry_ok`  every type is registered, under the method that it declares.
-/

namespace NodeRpc

namespace Catalog

/-- What holds of every type of the catalog: the values of its parameters read back, arguments are
not misread for them, payments occur in one type and blocks by hash in another. -/
structure Sound (t : CommandType) : Prop where
  typed : t.representation = .typed
  legible : ∀ f ∈ t.fields, f.schema.legible = true
  steady : ∀ f ∈ t.fields, f.steady = true
  pays : t ≠ walletCreateFundedPsbt → ∀ f ∈ t.fields, f.schema.pays = false
  blocks : t ≠ getBlockStats → ∀ f ∈ t.fields, f.schema ≠ .union .hashOrHeight

def sound (t : CommandType) : Bool :=
  t.representation = .typed && (t.fields.all fun f => f.schema.legible && f.steady)
    && (t = walletCreateFundedPsbt || t.fields.all fun f => !f.schema.pays)
    && (t = getBlockStats || t.fields.all fun f => f.schema ≠ .union .hashOrHeight)

theorem all_sound : types.all sound = true := by decide +kernel

example : types.length = 144 := by decide +kernel

theorem sound_of_mem {t : CommandType} (ht : t ∈ types) : Sound t := by
  have h := List.all_eq_true.1 all_sound t ht
  simp only [sound, Bool.and_eq_true, Bool.or_eq_true, List.all_eq_true, decide_eq_true_eq,
    Bool.not_eq_true'] at h
  obtain ⟨⟨⟨htyped, hfields⟩, hpays⟩, hblocks⟩ := h
  exact
    { typed := htyped
      legible := fun f hf => (hfields f hf).1
      steady := fun f hf => (hfields f hf).2
      pays := hpays.resolve_left
      blocks := hblocks.resolve_left }

end Catalog

/-! ## The standard registry -/

theorem Standard.registry_isOk : Standard.registry.isOk = true := by decide +kernel

theorem Standard.registry_ok :
    ∃ r, Standard.registry = .ok r ∧ r.Reachable
      ∧ (∀ t ∈ Catalog.types, Fits .start t.fields ∧ t ∈ r.names.map Prod.fst)
      ∧ ∀ d ∈ r.methods, d.type ∈ Catalog.types ∧ d.method = d.type.method := by
  obtain ⟨r, hr⟩ := isOk_iff.1 Standard.registry_isOk
  exact ⟨r, hr, Registry.ofTypes_eq_ok hr⟩

theorem Catalog.legible_of_mem {t : CommandType} (ht : t ∈ Catalog.types) : Legible t.fields := by
  obtain ⟨r, _, _, htypes, _⟩ := Standard.registry_ok
  exact ⟨(htypes t ht).1.defaults, (sound_of_mem ht).legible⟩

end NodeRpc
