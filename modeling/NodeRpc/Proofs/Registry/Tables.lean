import NodeRpc.Proofs.Outcome
import NodeRpc.Registry.Basic

/-!
# Tables that pass the check

* `Fits`               what the check asks of the fields that follow those of a context;
* `checkFields_eq_ok`  the check passes exactly then, and gives the default of each field.
-/

namespace NodeRpc

namespace Field

def default? (f : Field) : Option Json := f.defaultText.bind Json.ofText?

/-- Only an optional field declares a default, and one that it accepts. -/
def DefaultFits (f : Field) : Prop :=
  ∀ text, f.defaultText = some text →
    f.optional = true ∧ ∃ v, Json.ofText? text = some v ∧ f.accepts v = true

theorem DefaultFits.of_default {f : Field} (hf : f.DefaultFits) {v : Json}
    (hv : f.default? = some v) : f.optional = true ∧ f.accepts v = true := by
  obtain ⟨text, htext, hread⟩ := Option.bind_eq_some_iff.1 hv
  obtain ⟨hopt, w, hw, haccepts⟩ := hf text htext
  rw [hread] at hw
  cases hw
  exact ⟨hopt, haccepts⟩

theorem defaultValue?_eq_some {f : Field} {text : String} {v : Json} :
    f.defaultValue? text = some v ↔ Json.ofText? text = some v ∧ f.accepts v = true :=
  Option.filter_eq_some_iff

theorem check_eq_ok {f : Field} {c : FieldContext} {default : Option Json} :
    f.check c = .ok default ↔
      f.name ≠ "" ∧ f.name ∉ c.names ∧ (c.optional = true → f.optional = true) ∧ f.DefaultFits
        ∧ default = f.default? := by
  unfold check
  split
  · rename_i hname
    exact ⟨fun h => (nomatch h), fun h => absurd hname h.1⟩
  rename_i hname
  split
  · rename_i hmem
    exact ⟨fun h => (nomatch h), fun h => absurd hmem h.2.1⟩
  rename_i hmem
  split
  · rename_i hlate
    rw [Bool.and_eq_true, Bool.not_eq_true'] at hlate
    exact ⟨fun h => (nomatch h), fun h => absurd (h.2.2.1 hlate.2) (by rw [hlate.1]; decide)⟩
  rename_i hlate
  have horder : c.optional = true → f.optional = true := by
    intro hc
    cases ho : f.optional with
    | true => rfl
    | false => exact absurd (by rw [ho, hc]; rfl) hlate
  unfold DefaultFits default?
  cases htext : f.defaultText with
  | none =>
    constructor
    · intro h
      cases h
      exact ⟨hname, hmem, horder, fun _ hn => (nomatch hn), rfl⟩
    · rintro ⟨_, _, _, _, rfl⟩
      rfl
  | some text =>
    cases ho : f.optional with
    | false =>
      exact ⟨fun h => (nomatch h), fun h => absurd (h.2.2.2.1 text rfl).1 (by decide)⟩
    | true =>
      dsimp only
      rw [Bool.not_true, if_neg Bool.false_ne_true]
      constructor
      · intro h
        split at h
        · rename_i v hv
          cases h
          have hread := defaultValue?_eq_some.1 hv
          refine ⟨hname, hmem, fun _ => rfl, fun u hu => ?_, hread.1.symm⟩
          cases hu
          exact ⟨rfl, v, hread⟩
        · cases h
      · rintro ⟨_, _, _, hdefault, rfl⟩
        obtain ⟨_, v, hread⟩ := hdefault text rfl
        rw [defaultValue?_eq_some.2 hread]
        exact congrArg Except.ok hread.1.symm

end Field

/-! ## Tables -/

/-- What the check asks of fields that follow those of a context. -/
structure Fits (c : FieldContext) (fields : List Field) : Prop where
  named : ∀ f ∈ fields, f.name ≠ ""
  distinct : (fields.map Field.name).Nodup
  fresh : ∀ f ∈ fields, f.name ∉ c.names
  requiredFirst : fields.Pairwise fun f g => f.optional = true → g.optional = true
  afterOptional : c.optional = true → ∀ f ∈ fields, f.optional = true
  defaults : ∀ f ∈ fields, f.DefaultFits

namespace Fits

variable {c : FieldContext} {f : Field} {fs : List Field}

theorem nil : Fits c [] where
  named _ h := (nomatch h)
  distinct := List.nodup_nil
  fresh _ h := (nomatch h)
  requiredFirst := List.Pairwise.nil
  afterOptional _ _ h := (nomatch h)
  defaults _ h := (nomatch h)

theorem cons_iff :
    Fits c (f :: fs) ↔
      (f.name ≠ "" ∧ f.name ∉ c.names ∧ (c.optional = true → f.optional = true) ∧ f.DefaultFits)
        ∧ Fits (c.next f) fs := by
  constructor
  · intro h
    have hfirst := List.pairwise_cons.1 h.requiredFirst
    have hname := List.nodup_cons.1 h.distinct
    refine ⟨⟨h.named f List.mem_cons_self, h.fresh f List.mem_cons_self,
      fun hc => h.afterOptional hc f List.mem_cons_self, h.defaults f List.mem_cons_self⟩, ?_⟩
    refine
      { named := fun g hg => h.named g (List.mem_cons_of_mem _ hg)
        distinct := hname.2
        fresh := fun g hg hmem => ?_
        requiredFirst := hfirst.2
        afterOptional := fun hc g hg => ?_
        defaults := fun g hg => h.defaults g (List.mem_cons_of_mem _ hg) }
    · rcases List.mem_cons.1 hmem with heq | hmem
      · exact hname.1 (heq ▸ List.mem_map_of_mem hg)
      · exact h.fresh g (List.mem_cons_of_mem _ hg) hmem
    · rcases Bool.or_eq_true_iff.1 hc with hc | hf
      · exact h.afterOptional hc g (List.mem_cons_of_mem _ hg)
      · exact hfirst.1 g hg hf
  · rintro ⟨⟨hnamed, hfresh, horder, hdefault⟩, h⟩
    have hnames : ∀ g ∈ fs, g.name ≠ f.name ∧ g.name ∉ c.names := fun g hg =>
      ⟨fun heq => h.fresh g hg (heq ▸ List.mem_cons_self),
        fun hmem => h.fresh g hg (List.mem_cons_of_mem _ hmem)⟩
    refine
      { named := List.forall_mem_cons.2 ⟨hnamed, h.named⟩
        distinct := List.nodup_cons.2 ⟨fun hmem => ?_, h.distinct⟩
        fresh := List.forall_mem_cons.2 ⟨hfresh, fun g hg => (hnames g hg).2⟩
        requiredFirst := List.pairwise_cons.2 ⟨fun g hg hf => ?_, h.requiredFirst⟩
        afterOptional := fun hc => List.forall_mem_cons.2 ⟨horder hc, fun g hg => ?_⟩
        defaults := List.forall_mem_cons.2 ⟨hdefault, h.defaults⟩ }
    · obtain ⟨g, hg, heq⟩ := List.mem_map.1 hmem
      exact (hnames g hg).1 heq
    · exact h.afterOptional (Bool.or_eq_true_iff.2 (.inr hf)) g hg
    · exact h.afterOptional (Bool.or_eq_true_iff.2 (.inl hc)) g hg

end Fits

theorem checkFields_eq_ok {c : FieldContext} {fs : List Field} {defaults : List (Option Json)} :
    checkFields c fs = .ok defaults ↔ Fits c fs ∧ defaults = fs.map Field.default? := by
  induction fs generalizing c defaults with
  | nil =>
    constructor
    · intro h
      cases h
      exact ⟨Fits.nil, rfl⟩
    · rintro ⟨_, rfl⟩
      rfl
  | cons f fs ih =>
    rw [Fits.cons_iff]
    constructor
    · intro h
      obtain ⟨d, hd, h⟩ := bind_eq_ok.1 h
      obtain ⟨ds, hds, h⟩ := bind_eq_ok.1 h
      cases h
      obtain ⟨hnamed, hfresh, horder, hdefault, rfl⟩ := Field.check_eq_ok.1 hd
      obtain ⟨hfits, rfl⟩ := ih.1 hds
      exact ⟨⟨⟨hnamed, hfresh, horder, hdefault⟩, hfits⟩, rfl⟩
    · rintro ⟨⟨⟨hnamed, hfresh, horder, hdefault⟩, hfits⟩, rfl⟩
      have hd := Field.check_eq_ok.2 ⟨hnamed, hfresh, horder, hdefault, rfl⟩
      exact bind_eq_ok.2 ⟨_, hd, bind_eq_ok.2 ⟨_, ih.2 ⟨hfits, rfl⟩, rfl⟩⟩

theorem Fits.of_isOk {c : FieldContext} {fs : List Field} (h : (checkFields c fs).isOk = true) :
    Fits c fs := by
  obtain ⟨defaults, hd⟩ := isOk_iff.1 h
  exact (checkFields_eq_ok.1 hd).1

end NodeRpc
