import NodeRpc.Proofs.Registry.Runs
import NodeRpc.Registry.Codec

/-!
# Slots and parameters

* `Spells`                        parameters that write slots up to the last present one;
* `Writable`                      slots that a table allows to be written;
* `Descriptor.params_eq_ok`       these are written, up to the last present one;
* `Field.received`                the slot that the decoder is handed for one that was written;
* `Writable.fillSlots_paramsOf`   the parameters of writable slots fill these;
* `received_fillSlots`            what parameters fill would be filled the same if it were sent;
* `fillSlots_eq_mapIdx`           each slot is filled by the parameter at its place.
-/

namespace NodeRpc

/-! ## Leaving off what is absent -/

theorem dropAbsent_cons (slot : Option Json) (slots : List (Option Json)) :
    dropAbsent (slot :: slots) =
      if slot = none ∧ dropAbsent slots = [] then [] else slot :: dropAbsent slots := by
  cases slot with
  | some v => exact (if_neg fun h => (nomatch h.1)).symm
  | none =>
    cases hrest : dropAbsent slots with
    | nil =>
      rw [if_pos ⟨rfl, rfl⟩]
      unfold dropAbsent
      rw [hrest]
    | cons s rest =>
      rw [if_neg fun h => (nomatch h.2)]
      unfold dropAbsent
      rw [hrest]

theorem dropAbsent_append (slots : List (Option Json)) :
    ∃ n, slots = dropAbsent slots ++ List.replicate n none := by
  induction slots with
  | nil => exact ⟨0, rfl⟩
  | cons slot slots ih =>
    obtain ⟨n, hn⟩ := ih
    rw [dropAbsent_cons]
    split
    · rename_i h
      refine ⟨n + 1, ?_⟩
      rw [h.1, hn, h.2]
      rfl
    · refine ⟨n, ?_⟩
      rw [List.cons_append, ← hn]

/-- What is kept ends with a present slot. -/
theorem dropAbsent_last {slots : List (Option Json)} {i : Nat}
    (h : (dropAbsent slots).length = i + 1) : ∃ v, (dropAbsent slots)[i]? = some (some v) := by
  induction slots generalizing i with
  | nil => cases h
  | cons slot slots ih =>
    rw [dropAbsent_cons] at h ⊢
    split at h
    · cases h
    rename_i hkept
    rw [if_neg hkept]
    cases i with
    | zero =>
      have hnil : dropAbsent slots = [] := List.eq_nil_of_length_eq_zero (Nat.succ.inj h)
      cases slot with
      | none => exact absurd ⟨rfl, hnil⟩ hkept
      | some v => exact ⟨v, rfl⟩
    | succ i => exact ih (Nat.succ.inj h)

def paramsOf (slots : List (Option Json)) : List Json :=
  (dropAbsent slots).map fun slot => slot.getD .null

/-- Parameters that write slots up to the last present one, with null for an absent one between. -/
structure Spells (slots : List (Option Json)) (params : List Json) : Prop where
  present : ∀ (i : Nat) (v : Json), slots[i]? = some (some v) → params[i]? = some v
  absent : ∀ i : Nat, slots[i]? = some none → i < params.length → params[i]? = some .null
  last : ∀ i : Nat, params.length = i + 1 → ∃ v, slots[i]? = some (some v)

theorem spells_paramsOf (slots : List (Option Json)) : Spells slots (paramsOf slots) := by
  obtain ⟨n, hn⟩ := dropAbsent_append slots
  have hkept : ∀ i, i < (dropAbsent slots).length → slots[i]? = (dropAbsent slots)[i]? := by
    intro i hi
    conv_lhs => rw [hn]
    exact List.getElem?_append_left hi
  unfold paramsOf
  refine { present := fun i v hi => ?_, absent := fun i hi hlt => ?_, last := fun i hi => ?_ }
  · rw [List.getElem?_map]
    rcases Nat.lt_or_ge i (dropAbsent slots).length with hlt | hge
    · rw [← hkept i hlt, hi]
      rfl
    · rw [hn, List.getElem?_append_right hge] at hi
      cases List.eq_of_mem_replicate (List.mem_of_getElem? hi)
  · rw [List.length_map] at hlt
    rw [List.getElem?_map, ← hkept i hlt, hi]
    rfl
  · rw [List.length_map] at hi
    rw [hkept i (hi ▸ Nat.lt_succ_self i)]
    exact dropAbsent_last hi

theorem length_paramsOf_le (slots : List (Option Json)) :
    (paramsOf slots).length ≤ slots.length := by
  obtain ⟨n, hn⟩ := dropAbsent_append slots
  conv_rhs => rw [hn]
  rw [paramsOf, List.length_map, List.length_append]
  exact Nat.le_add_right _ _

theorem getD_null_inj {a b : Option Json} (ha : a ≠ some .null) (hb : b ≠ some .null)
    (h : a.getD .null = b.getD .null) : a = b := by
  cases a with
  | none =>
    cases b with
    | none => rfl
    | some w => exact absurd (congrArg some h.symm) hb
  | some v =>
    cases b with
    | none => exact absurd (congrArg some h) ha
    | some w => exact congrArg some h

/-- Slots none of which is null are known from the parameters that write them. -/
theorem paramsOf_inj {s s' : List (Option Json)} (hlength : s.length = s'.length)
    (hs : some .null ∉ s) (hs' : some .null ∉ s') (h : paramsOf s = paramsOf s') : s = s' := by
  induction s generalizing s' with
  | nil => exact (List.eq_nil_of_length_eq_zero hlength.symm).symm
  | cons a s ih =>
    cases s' with
    | nil => cases hlength
    | cons a' s' =>
      have hrest := ih (Nat.succ.inj hlength) (fun h => hs (List.mem_cons_of_mem _ h))
        fun h => hs' (List.mem_cons_of_mem _ h)
      rw [paramsOf, paramsOf, dropAbsent_cons, dropAbsent_cons] at h
      split at h
      · rename_i hd
        split at h
        · rename_i hd'
          rw [hd.1, hd'.1, hrest (by rw [paramsOf, paramsOf, hd.2, hd'.2])]
        · cases h
      · split at h
        · cases h
        · obtain ⟨hhead, htail⟩ := List.cons.inj h
          rw [hrest htail, getD_null_inj (fun h => hs (h ▸ List.mem_cons_self))
            (fun h => hs' (h ▸ List.mem_cons_self)) hhead]

/-! ## Required slots -/

/-- Slots that a table allows to be written: one for each field, and none of the required ones
absent. -/
structure Writable (fields : List Field) (slots : List (Option Json)) : Prop where
  length : slots.length = fields.length
  required : ∀ f slot, (f, slot) ∈ fields.zip slots → f.optional = false → slot ≠ none

theorem Writable.cons_iff {f : Field} {fields : List Field} {slot : Option Json}
    {slots : List (Option Json)} :
    Writable (f :: fields) (slot :: slots) ↔
      (f.optional = false → slot ≠ none) ∧ Writable fields slots := by
  constructor
  · intro h
    exact ⟨h.required f slot List.mem_cons_self, Nat.succ.inj h.length,
      fun g s hmem => h.required g s (List.mem_cons_of_mem _ hmem)⟩
  · rintro ⟨hslot, h⟩
    refine ⟨congrArg Nat.succ h.length, fun g s hmem => ?_⟩
    rcases List.mem_cons.1 hmem with heq | hmem
    · cases heq
      exact hslot
    · exact h.required g s hmem

theorem unsetField?_eq_none (index : Nat) {fields : List Field} {slots : List (Option Json)}
    (hlength : slots.length = fields.length) :
    unsetField? index fields slots = none ↔ Writable fields slots := by
  induction fields generalizing index slots with
  | nil => exact ⟨fun _ => ⟨hlength, fun _ _ h => (nomatch h)⟩, fun _ => rfl⟩
  | cons f fields ih =>
    cases slots with
    | nil => cases hlength
    | cons slot slots =>
      rw [unsetField?, Writable.cons_iff]
      split
      · rename_i hunset
        rw [Bool.and_eq_true, Bool.not_eq_true'] at hunset
        refine ⟨fun h => (nomatch h), fun h => ?_⟩
        exact absurd (Option.isNone_iff_eq_none.1 hunset.1) (h.1 hunset.2)
      · rename_i hset
        rw [ih _ (Nat.succ.inj hlength)]
        refine ⟨fun h => ⟨fun hreq hnone => hset ?_, h⟩, fun h => h.2⟩
        rw [hreq, hnone]
        rfl

theorem Writable.required_le {fields : List Field} {slots : List (Option Json)}
    (h : Writable fields slots)
    (horder : fields.Pairwise fun f g => f.optional = true → g.optional = true) :
    (fields.countP fun f => !f.optional) ≤ (paramsOf slots).length := by
  rw [paramsOf, List.length_map]
  induction fields generalizing slots with
  | nil => exact Nat.zero_le _
  | cons f fields ih =>
    obtain ⟨hfirst, hrest⟩ := List.pairwise_cons.1 horder
    cases slots with
    | nil => cases h.length
    | cons slot slots =>
      obtain ⟨hslot, h⟩ := Writable.cons_iff.1 h
      cases ho : f.optional with
      | true =>
        have hnone : ((f :: fields).countP fun f => !f.optional) = 0 := by
          rw [List.countP_eq_zero]
          intro g hg
          rcases List.mem_cons.1 hg with rfl | hg
          · rw [ho]; decide
          · rw [hfirst g hg ho]; decide
        rw [hnone]
        exact Nat.zero_le _
      | false =>
        rw [dropAbsent_cons, if_neg fun hd => hslot ho hd.1,
          List.countP_cons_of_pos (by rw [ho]; rfl)]
        exact Nat.succ_le_succ (ih h hrest)

/-! ## Writing slots -/

theorem Descriptor.params_eq_ok {d : Descriptor} {slots : List (Option Json)}
    {params : List Json} :
    d.params slots = .ok params ↔ Writable d.fields slots ∧ params = paramsOf slots := by
  unfold Descriptor.params
  split
  · rename_i hlength
    exact ⟨fun h => (nomatch h), fun h => absurd h.1.length hlength⟩
  rename_i hlength
  rw [← unsetField?_eq_none 0 (Decidable.not_not.1 hlength)]
  split
  · rename_i p hp
    exact ⟨fun h => (nomatch h), fun h => by rw [hp] at h; cases h.1⟩
  · rename_i hp
    constructor
    · intro h
      cases h
      exact ⟨hp, rfl⟩
    · rintro ⟨_, rfl⟩
      rfl

/-! ## Reading them back -/

/-- The slot that the decoder is handed for one that was written: the default of an optional field
whose slot is absent or null, and the slot itself of every other field. -/
def Field.received (f : Field) (slot : Option Json) : Option Json :=
  if f.optional = true ∧ (slot = none ∨ slot = some .null) then f.default? else slot

theorem Field.received_of_required {f : Field} (h : f.optional = false) (slot : Option Json) :
    f.received slot = slot :=
  if_neg fun hopt => by rw [h] at hopt; cases hopt.1

theorem Field.received_none {f : Field} (h : f.optional = true) : f.received none = f.default? :=
  if_pos ⟨h, .inl rfl⟩

theorem Field.default?_of_required {f : Field} (hf : f.DefaultFits) (h : f.optional = false) :
    f.default? = none := by
  cases hdefault : f.default? with
  | none => rfl
  | some v =>
    have ho := (hf.of_default hdefault).1
    rw [h] at ho
    cases ho

theorem Field.received_default (f : Field) : f.received f.default? = f.default? := by
  unfold Field.received
  split <;> rfl

theorem Field.received_some {f : Field} {v : Json} (h : f.optional = true → v.isNull = false) :
    f.received (some v) = some v := by
  refine if_neg fun hnull => ?_
  have hv := h hnull.1
  rcases hnull.2 with hnone | hnull
  · cases hnone
  · rw [Option.some.inj hnull] at hv
    cases hv

theorem Field.received_received (f : Field) (slot : Option Json) :
    f.received (f.received slot) = f.received slot := by
  by_cases h : f.optional = true ∧ (slot = none ∨ slot = some .null)
  · have hslot : f.received slot = f.default? := if_pos h
    rw [hslot, f.received_default]
  · have hslot : f.received slot = slot := if_neg h
    rw [hslot, hslot]

theorem Field.received_param (f : Field) (v : Json) :
    (if v.isNull && f.optional then f.default? else some v) = f.received (some v) := by
  split
  · rename_i hnull
    rw [Bool.and_eq_true] at hnull
    rw [Json.isNull_iff.1 hnull.1]
    exact (if_pos ⟨hnull.2, .inr rfl⟩).symm
  · rename_i hv
    refine (Field.received_some fun ho => ?_).symm
    rw [ho, Bool.and_true, Bool.not_eq_true] at hv
    exact hv

theorem Field.received_of_getD {f : Field} {slot : Option Json}
    (h : f.optional = false → slot ≠ none) :
    (if (slot.getD .null).isNull && f.optional then f.default? else some (slot.getD .null))
      = f.received slot := by
  cases slot with
  | none =>
    cases ho : f.optional with
    | false => exact absurd rfl (h ho)
    | true => exact (Field.received_none ho).symm
  | some v => exact f.received_param v

/-- The parameters that writable slots are written as fill the slots that the decoder is handed. -/
theorem Writable.fillSlots_paramsOf {fields : List Field} {slots : List (Option Json)}
    (h : Writable fields slots) :
    NodeRpc.fillSlots fields (fields.map Field.default?) (paramsOf slots)
      = List.zipWith Field.received fields slots := by
  induction fields generalizing slots with
  | nil => rfl
  | cons f fields ih =>
    cases slots with
    | nil => cases h.length
    | cons slot slots =>
      obtain ⟨hslot, h⟩ := Writable.cons_iff.1 h
      rw [paramsOf, dropAbsent_cons, List.zipWith_cons_cons, ← ih h, paramsOf]
      split
      · rename_i hdropped
        have ho : f.optional = true := by
          cases ho : f.optional with
          | true => rfl
          | false => exact absurd hdropped.1 (hslot ho)
        rw [hdropped.1, hdropped.2, Field.received_none ho]
        rfl
      · rw [← Field.received_of_getD hslot]
        rfl

theorem length_fillSlots (fields : List Field) (defaults : List (Option Json))
    (params : List Json) : (NodeRpc.fillSlots fields defaults params).length = fields.length := by
  induction fields generalizing defaults params with
  | nil => rfl
  | cons f fields ih =>
    cases params with
    | nil => exact congrArg Nat.succ (ih defaults.tail [])
    | cons v params => exact congrArg Nat.succ (ih defaults.tail params)

/-- Sending what parameters have filled would leave it as it is. -/
theorem received_fillSlots (fields : List Field) (params : List Json) :
    List.zipWith Field.received fields (fillSlots fields (fields.map Field.default?) params)
      = fillSlots fields (fields.map Field.default?) params := by
  induction fields generalizing params with
  | nil => rfl
  | cons f fields ih =>
    cases params with
    | nil => exact congrArg₂ List.cons f.received_default (ih [])
    | cons v params =>
      refine congrArg₂ List.cons ?_ (ih params)
      show f.received (if v.isNull && f.optional then f.default? else some v)
        = if v.isNull && f.optional then f.default? else some v
      rw [f.received_param, f.received_received]

theorem fillSlots_eq_mapIdx {fields : List Field} (hfits : ∀ f ∈ fields, f.DefaultFits)
    (params : List Json) :
    fillSlots fields (fields.map Field.default?) params
      = fields.mapIdx fun i f => f.received params[i]? := by
  induction fields generalizing params with
  | nil => rfl
  | cons f fields ih =>
    obtain ⟨hf, hfits⟩ := List.forall_mem_cons.1 hfits
    rw [List.mapIdx_cons]
    cases params with
    | nil =>
      refine congrArg₂ List.cons ?_ (ih hfits [])
      cases ho : f.optional with
      | true => exact (Field.received_none ho).symm
      | false =>
        show f.default? = f.received none
        rw [Field.received_of_required ho, Field.default?_of_required hf ho]
    | cons v params => exact congrArg₂ List.cons (f.received_param v) (ih hfits params)

end NodeRpc
