import Mathlib.Data.List.Nodup
import NodeRpc.Proofs.Registry.Tables

/-!
# Registries that registrations lead to

* `Registry.registerAs_eq_ok`   when a type is registered, and what is added then;
* `Registry.Reachable`          the registries that registrations lead to from the empty one;
* `Registry.Sound`              the invariant: names are distinct, descriptors are those of their
                                types, and the name of a type leads back to the type.
-/

namespace NodeRpc

def CommandType.descriptor (t : CommandType) (method : String) (flags : UsageFlags) : Descriptor :=
  ⟨method, flags, t, t.fields.map Field.default?, t.fields.countP fun f => !f.optional⟩

namespace Registry

/-! ## One step -/

theorem has_eq_false {r : Registry} {method : String} :
    r.has method = false ↔ method ∉ r.methods.map Descriptor.method := by
  unfold has descriptor?
  rw [Option.isSome_eq_false_iff, Option.isNone_iff_eq_none, List.find?_eq_none]
  constructor
  · intro h hmem
    obtain ⟨d, hd, hm⟩ := List.mem_map.1 hmem
    exact h d hd (decide_eq_true hm)
  · intro h d hd hm
    exact h (of_decide_eq_true hm ▸ List.mem_map_of_mem hd)

/-- A type is registered exactly under a free name, with known flags and a table that fits. -/
theorem registerAs_eq_ok {r r' : Registry} {t : CommandType} {method : String}
    {flags : UsageFlags} :
    (r.registerAs t method flags).result = .ok r' ↔
      r.has method = false ∧ flags.hasUnknownBits = false ∧ Fits .start t.fields
        ∧ r' = r.add (t.descriptor method flags) := by
  unfold registerAs
  split
  · rename_i hhas
    exact ⟨fun h => (nomatch h), fun h => by rw [hhas] at h; cases h.1⟩
  rename_i hhas
  split
  · rename_i hflags
    exact ⟨fun h => (nomatch h), fun h => by rw [hflags] at h; cases h.2.1⟩
  rename_i hflags
  rw [Bool.not_eq_true] at hhas hflags
  simp only [Logged.result_bind, Logged.result_quiet, Logged.result_emit, Logged.result_pure]
  constructor
  · intro h
    obtain ⟨defaults, hd, h⟩ := bind_eq_ok.1 h
    obtain ⟨_, _, h⟩ := bind_eq_ok.1 h
    cases h
    obtain ⟨hfits, rfl⟩ := checkFields_eq_ok.1 hd
    exact ⟨hhas, hflags, hfits, rfl⟩
  · rintro ⟨_, _, hfits, rfl⟩
    exact bind_eq_ok.2 ⟨_, checkFields_eq_ok.2 ⟨hfits, rfl⟩, rfl⟩

/-! ## The invariant -/

/-- What holds of every registry that registrations lead to. -/
structure Sound (r : Registry) : Prop where
  distinct : (r.methods.map Descriptor.method).Nodup
  descriptors : ∀ d ∈ r.methods, Fits .start d.fields ∧ d = d.type.descriptor d.method d.flags
  /-- The name of a type leads to a descriptor of the type. -/
  names : ∀ t method, (t, method) ∈ r.names → ∃ d ∈ r.methods, d.method = method ∧ d.type = t

theorem Sound.empty : Sound .empty where
  distinct := List.nodup_nil
  descriptors _ h := (nomatch h)
  names _ _ h := (nomatch h)

theorem Sound.registerAs {r r' : Registry} (hr : r.Sound) {t : CommandType} {method : String}
    {flags : UsageFlags} (h : (r.registerAs t method flags).result = .ok r') : r'.Sound := by
  obtain ⟨hfree, _, hfits, rfl⟩ := registerAs_eq_ok.1 h
  refine { distinct := ?_, descriptors := fun d hd => ?_, names := fun u m hu => ?_ }
  · show ((r.methods ++ [t.descriptor method flags]).map Descriptor.method).Nodup
    rw [List.map_append]
    refine List.nodup_append.2 ⟨hr.distinct, List.nodup_singleton _, ?_⟩
    rintro a ha b hb rfl
    rw [List.mem_singleton.1 hb] at ha
    exact has_eq_false.1 hfree ha
  · rcases List.mem_append.1 hd with hd | hd
    · exact hr.descriptors d hd
    · rw [List.mem_singleton.1 hd]
      exact ⟨hfits, rfl⟩
  · rcases List.mem_cons.1 hu with heq | hu
    · cases heq
      exact ⟨_, List.mem_append_right _ (List.mem_singleton_self _), rfl, rfl⟩
    · obtain ⟨d, hd, hm, ht⟩ := hr.names u m hu
      exact ⟨d, List.mem_append_left _ hd, hm, ht⟩

theorem Sound.defaults_eq {r : Registry} (hr : r.Sound) {d : Descriptor} (hd : d ∈ r.methods) :
    d.defaults = d.fields.map Field.default? := by
  rw [(hr.descriptors d hd).2]
  rfl

theorem Sound.required_eq {r : Registry} (hr : r.Sound) {d : Descriptor} (hd : d ∈ r.methods) :
    d.required = d.fields.countP fun f => !f.optional := by
  rw [(hr.descriptors d hd).2]
  rfl

/-! ## Runs -/

/-- The registries that registrations lead to from the empty one. -/
inductive Reachable : Registry → Prop
  | empty : Reachable .empty
  | registerAs {r r' : Registry} {t : CommandType} {method : String} {flags : UsageFlags} :
    Reachable r → (r.registerAs t method flags).result = .ok r' → Reachable r'

theorem Reachable.sound {r : Registry} (h : r.Reachable) : r.Sound := by
  induction h with
  | empty => exact Sound.empty
  | registerAs _ hstep ih => exact ih.registerAs hstep

theorem Reachable.single {t : CommandType} (hfields : (checkFields .start t.fields).isOk = true)
    (hflags : t.flags.hasUnknownBits = false) :
    (Registry.empty.add (t.descriptor t.method t.flags)).Reachable :=
  .registerAs .empty (registerAs_eq_ok.2 ⟨rfl, hflags, .of_isOk hfields, rfl⟩)

theorem Reachable.registerAll {r r' : Registry} {ts : List CommandType} (hr : r.Reachable)
    (h : (r.registerAll ts).result = .ok r') : r'.Reachable := by
  induction ts generalizing r with
  | nil =>
    cases h
    exact hr
  | cons t ts ih =>
    rw [Registry.registerAll, Logged.result_bind] at h
    obtain ⟨r₁, h₁, h⟩ := bind_eq_ok.1 h
    exact ih (hr.registerAs h₁) h

theorem registerAll_eq_ok {r r' : Registry} {ts : List CommandType}
    (h : (r.registerAll ts).result = .ok r') :
    (∀ t ∈ ts, Fits .start t.fields)
      ∧ r'.methods = r.methods ++ ts.map (fun t => t.descriptor t.method t.flags)
      ∧ r'.names = (ts.map fun t => (t, t.method)).reverse ++ r.names := by
  induction ts generalizing r with
  | nil =>
    cases h
    exact ⟨fun _ ht => (nomatch ht), (List.append_nil _).symm, rfl⟩
  | cons t ts ih =>
    rw [Registry.registerAll, Logged.result_bind] at h
    obtain ⟨r₁, h₁, h⟩ := bind_eq_ok.1 h
    obtain ⟨_, _, hfits, rfl⟩ := registerAs_eq_ok.1 h₁
    obtain ⟨hall, hmethods, hnames⟩ := ih h
    refine ⟨List.forall_mem_cons.2 ⟨hfits, hall⟩, ?_, ?_⟩
    · rw [hmethods, List.map_cons, List.append_cons]
      rfl
    · rw [hnames, List.map_cons, List.reverse_cons, List.append_assoc]
      rfl

/-- The registry of some types holds each under the method that it declares. -/
theorem ofTypes_eq_ok {r : Registry} {ts : List CommandType} (h : ofTypes ts = .ok r) :
    r.Reachable ∧ (∀ t ∈ ts, Fits .start t.fields ∧ t ∈ r.names.map Prod.fst)
      ∧ ∀ d ∈ r.methods, d.type ∈ ts ∧ d.method = d.type.method := by
  obtain ⟨hfits, hmethods, hnames⟩ := registerAll_eq_ok h
  refine ⟨Reachable.empty.registerAll h, fun t ht => ⟨hfits t ht, ?_⟩, fun d hd => ?_⟩
  · rw [hnames]
    exact List.mem_map_of_mem (f := Prod.fst)
      (List.mem_append_left _ (List.mem_reverse.2 (List.mem_map_of_mem ht)))
  · rw [hmethods] at hd
    obtain ⟨t, ht, rfl⟩ := List.mem_map.1 hd
    exact ⟨ht, rfl⟩

/-! ## Looking up -/

theorem Sound.descriptor?_of_mem {r : Registry} (hr : r.Sound) {d : Descriptor}
    (hd : d ∈ r.methods) : r.descriptor? d.method = some d := by
  have hfound : (r.methods.find? fun e => e.method = d.method).isSome = true :=
    List.find?_isSome.2 ⟨d, hd, decide_eq_true rfl⟩
  obtain ⟨e, he⟩ := Option.isSome_iff_exists.1 hfound
  have hmethod : e.method = d.method := of_decide_eq_true (List.find?_some he :)
  have heq : e = d :=
    List.inj_on_of_nodup_map hr.distinct (List.mem_of_find?_eq_some he) hd hmethod
  exact heq ▸ he

theorem Sound.lookup_of_mem {r : Registry} (hr : r.Sound) {d : Descriptor} (hd : d ∈ r.methods) :
    r.lookup d.method = .ok d := by
  unfold Registry.lookup
  rw [hr.descriptor?_of_mem hd]

theorem lookup_eq_ok {r : Registry} {method : String} {d : Descriptor} :
    r.lookup method = .ok d ↔ r.descriptor? method = some d := by
  unfold Registry.lookup
  cases r.descriptor? method with
  | none => exact ⟨fun h => (nomatch h), fun h => (nomatch h)⟩
  | some e =>
    constructor
    · intro h
      rw [Except.ok.inj h]
    · intro h
      rw [Option.some.inj h]

theorem mem_of_lookup {r : Registry} {method : String} {d : Descriptor}
    (h : r.lookup method = .ok d) : d ∈ r.methods ∧ d.method = method := by
  unfold Registry.lookup at h
  split at h
  · rename_i e he
    cases h
    exact ⟨List.mem_of_find?_eq_some he, of_decide_eq_true (List.find?_some he :)⟩
  · cases h

theorem mem_of_descriptor? {r : Registry} {method : String} {d : Descriptor}
    (h : r.descriptor? method = some d) : d ∈ r.methods := List.mem_of_find?_eq_some h

theorem Sound.lookupType_of_mem {r : Registry} (hr : r.Sound) {c : Command}
    (hc : c.type ∈ r.names.map Prod.fst) :
    ∃ d ∈ r.methods, d.type = c.type ∧ r.lookupType c = .ok d := by
  obtain ⟨method, hmethod⟩ : ∃ method, r.names.lookup c.type = some method := by
    obtain ⟨⟨t, m⟩, hmem, rfl⟩ := List.mem_map.1 hc
    exact Option.isSome_iff_exists.1 (List.lookup_isSome_iff.2 ⟨_, hmem, beq_self_eq_true _⟩)
  obtain ⟨before, after, hnames, _⟩ := List.lookup_eq_some_iff.1 hmethod
  have hmem : (c.type, method) ∈ r.names := by
    rw [hnames]
    exact List.mem_append_right _ List.mem_cons_self
  obtain ⟨d, hd, hm, ht⟩ := hr.names c.type method hmem
  refine ⟨d, hd, ht, ?_⟩
  unfold Registry.lookupType
  rw [hmethod, Option.bind_some, ← hm, hr.descriptor?_of_mem hd]

end Registry

end NodeRpc
