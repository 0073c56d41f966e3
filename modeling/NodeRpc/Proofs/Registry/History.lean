import NodeRpc.Proofs.Command.Decoding
import NodeRpc.Proofs.Registry.Requests

/-!
# What a registry remembers of its registrations

Registrations are made one after the other, from the empty registry, and one that fails changes
nothing.  A name is refused when it is taken, while a type that is registered again is from then on
known by the new name: so a name belongs to the first registration under it, a type to the last one.

* `Registry.attemptAll`           the registry after some registrations;
* `Registry.accepted`             those of them that succeed;
* `Registry.attemptAll_eq`        the tables are the accepted registrations, written down;
* `Registry.attemptAll_history`   what therefore holds after every sequence of registrations.
-/

namespace NodeRpc

structure Registration where
  type : CommandType
  method : String
  flags : UsageFlags
  deriving DecidableEq

namespace Registration

def declared (t : CommandType) : Registration := ⟨t, t.method, t.flags⟩

def descriptor (x : Registration) : Descriptor := x.type.descriptor x.method x.flags

def first? (done : List Registration) (method : String) : Option Registration :=
  done.find? fun x => x.method = method

def last? (done : List Registration) (t : CommandType) : Option Registration :=
  done.reverse.find? fun x => x.type = t

theorem exists_last? {done : List Registration} {t : CommandType}
    (h : t ∈ done.map Registration.type) : ∃ x ∈ done, x.type = t ∧ last? done t = some x := by
  obtain ⟨y, hy, hyt⟩ := List.mem_map.1 h
  have hfound : (last? done t).isSome = true :=
    List.find?_isSome.2 ⟨y, List.mem_reverse.2 hy, decide_eq_true hyt⟩
  obtain ⟨x, hx⟩ := Option.isSome_iff_exists.1 hfound
  have hmem : x ∈ done := List.mem_reverse.1 (List.mem_of_find?_eq_some hx)
  exact ⟨x, hmem, of_decide_eq_true (List.find?_some hx :), hx⟩

theorem lookup_reverse_map (done : List Registration) (t : CommandType) :
    ((done.map fun x => (x.type, x.method)).reverse).lookup t
      = (last? done t).map Registration.method := by
  rw [← List.map_reverse]
  unfold last?
  induction done.reverse with
  | nil => rfl
  | cons x xs ih =>
    rw [List.map_cons, List.lookup_cons, List.find?_cons]
    by_cases h : x.type = t
    · have hkey : (t == x.type) = true := beq_iff_eq.2 h.symm
      rw [hkey, decide_eq_true h]
      rfl
    · have hkey : (t == x.type) = false := beq_eq_false_iff_ne.2 fun heq => h heq.symm
      rw [hkey, decide_eq_false h]
      exact ih

end Registration

/-! ## What a descriptor carries -/

/-- A descriptor whose required fields come first, as many as it says, with a place for the default
of each field: only of an optional field, and only a value that the field accepts. -/
structure Descriptor.Orderly (d : Descriptor) : Prop where
  required_le : d.required ≤ d.fields.length
  required : ∀ (i : Nat) (f : Field), d.fields[i]? = some f → (f.optional = false ↔ i < d.required)
  length_defaults : d.defaults.length = d.fields.length
  default : ∀ (i : Nat) (v : Json), d.defaults[i]? = some (some v) →
    ∃ f : Field, d.fields[i]? = some f ∧ f.optional = true ∧ f.accepts v = true

/-- Where required fields come first, they are the ones before the place that their number gives. -/
theorem optional_eq_false_iff {fields : List Field}
    (horder : fields.Pairwise fun f g => f.optional = true → g.optional = true) {i : Nat}
    {f : Field} (hf : fields[i]? = some f) :
    f.optional = false ↔ i < fields.countP fun g => !g.optional := by
  induction fields generalizing i with
  | nil => cases hf
  | cons g fields ih =>
    obtain ⟨hfirst, hrest⟩ := List.pairwise_cons.1 horder
    cases hg : g.optional with
    | false =>
      rw [List.countP_cons_of_pos (by rw [hg]; rfl)]
      cases i with
      | zero =>
        have heq : g = f := Option.some.inj hf
        exact ⟨fun _ => Nat.succ_pos _, fun _ => heq ▸ hg⟩
      | succ i => exact (ih hrest hf).trans Nat.succ_lt_succ_iff.symm
    | true =>
      have hall : ∀ h ∈ g :: fields, h.optional = true := by
        intro h hh
        rcases List.mem_cons.1 hh with rfl | hh
        · exact hg
        · exact hfirst h hh hg
      have hnone : ((g :: fields).countP fun h => !h.optional) = 0 := by
        rw [List.countP_eq_zero]
        intro h hh
        rw [hall h hh]
        exact Bool.false_ne_true
      rw [hnone, hall f (List.mem_of_getElem? hf)]
      exact ⟨fun h => (nomatch h), fun h => absurd h (Nat.not_lt_zero i)⟩

namespace Registry

variable {r : Registry} {q : Request} {c : Command}

theorem Sound.orderly_of_mem (hr : r.Sound) {d : Descriptor} (hd : d ∈ r.methods) : d.Orderly := by
  have hfits := (hr.descriptors d hd).1
  refine { required_le := ?_, required := fun i f hf => ?_, length_defaults := ?_, default := ?_ }
  · rw [hr.required_eq hd]
    exact List.countP_le_length
  · rw [hr.required_eq hd]
    exact optional_eq_false_iff hfits.requiredFirst hf
  · rw [hr.defaults_eq hd, List.length_map]
  · intro i v hv
    rw [hr.defaults_eq hd, List.getElem?_map] at hv
    obtain ⟨f, hf, hdefault⟩ := Option.map_eq_some_iff.1 hv
    exact ⟨f, hf, (hfits.defaults f (List.mem_of_getElem? hf)).of_default hdefault⟩

/-! ## Sequences of registrations -/

/-- The registry after a registration; one that fails changes nothing. -/
def attempt (r : Registry) (x : Registration) : Registry :=
  match (r.registerAs x.type x.method x.flags).result with
  | .ok r' => r'
  | .error _ => r

def attemptAll (r : Registry) (xs : List Registration) : Registry := xs.foldl attempt r

def accepted (r : Registry) : List Registration → List Registration
  | [] => []
  | x :: xs =>
    match (r.registerAs x.type x.method x.flags).result with
    | .ok r' => x :: r'.accepted xs
    | .error _ => r.accepted xs

/-- A registration either adds its descriptor, under a free name, or changes nothing. -/
theorem attempt_cases (r : Registry) (x : Registration) (xs : List Registration) :
    ((r.registerAs x.type x.method x.flags).result = .ok (r.add x.descriptor)
      ∧ r.attempt x = r.add x.descriptor
      ∧ r.accepted (x :: xs) = x :: (r.add x.descriptor).accepted xs)
    ∨ (r.attempt x = r ∧ r.accepted (x :: xs) = r.accepted xs) := by
  cases hstep : (r.registerAs x.type x.method x.flags).result with
  | ok r' =>
    obtain ⟨_, _, _, rfl⟩ := registerAs_eq_ok.1 hstep
    refine .inl ⟨rfl, ?_, ?_⟩
    · unfold attempt
      rw [hstep]
      rfl
    · rw [accepted, hstep]
      rfl
  | error e =>
    refine .inr ⟨?_, ?_⟩
    · unfold attempt
      rw [hstep]
    · rw [accepted, hstep]

theorem attemptAll_eq (r : Registry) (xs : List Registration) :
    r.attemptAll xs =
      ⟨r.methods ++ (r.accepted xs).map Registration.descriptor,
        ((r.accepted xs).map fun x => (x.type, x.method)).reverse ++ r.names⟩ := by
  induction xs generalizing r with
  | nil =>
    show r = ⟨r.methods ++ [], r.names⟩
    rw [List.append_nil]
  | cons x xs ih =>
    show (r.attempt x).attemptAll xs = _
    rcases attempt_cases r x xs with ⟨_, hattempt, haccepted⟩ | ⟨hattempt, haccepted⟩
    · rw [hattempt, haccepted, ih, List.map_cons, List.map_cons, List.reverse_cons,
        List.append_assoc, List.append_cons]
      rfl
    · rw [hattempt, haccepted, ih]

theorem Reachable.attemptAll (hr : r.Reachable) (xs : List Registration) :
    (r.attemptAll xs).Reachable := by
  induction xs generalizing r with
  | nil => exact hr
  | cons x xs ih =>
    show ((r.attempt x).attemptAll xs).Reachable
    rcases attempt_cases r x xs with ⟨hstep, hattempt, _⟩ | ⟨hattempt, _⟩
    · rw [hattempt]
      exact ih (hr.registerAs hstep)
    · rw [hattempt]
      exact ih hr

/-- No registration changes the descriptor of a name that is taken. -/
theorem descriptor?_attemptAll {method : String} {d : Descriptor}
    (h : r.descriptor? method = some d) (xs : List Registration) :
    (r.attemptAll xs).descriptor? method = some d := by
  rw [attemptAll_eq]
  unfold descriptor? at h ⊢
  rw [List.find?_append, h, Option.some_or]

theorem descriptor?_empty_attemptAll (xs : List Registration) (method : String) :
    (empty.attemptAll xs).descriptor? method
      = (Registration.first? (empty.accepted xs) method).map Registration.descriptor := by
  rw [attemptAll_eq]
  unfold descriptor?
  show ((empty.accepted xs).map Registration.descriptor).find? _ = _
  rw [List.find?_map]
  rfl

theorem methods_empty_attemptAll (xs : List Registration) :
    (empty.attemptAll xs).methods = (empty.accepted xs).map Registration.descriptor := by
  rw [attemptAll_eq]
  rfl

theorem lookup_names_empty_attemptAll (xs : List Registration) (t : CommandType) :
    (empty.attemptAll xs).names.lookup t
      = (Registration.last? (empty.accepted xs) t).map Registration.method := by
  rw [attemptAll_eq]
  show (((empty.accepted xs).map fun x : Registration => (x.type, x.method)).reverse
    ++ []).lookup t = _
  rw [List.append_nil, Registration.lookup_reverse_map]

theorem lookupType_empty_attemptAll (xs : List Registration) {x : Registration}
    (h : Registration.last? (empty.accepted xs) c.type = some x) :
    (empty.attemptAll xs).lookupType c = .ok x.descriptor := by
  have hsound : (empty.attemptAll xs).Sound := (Reachable.empty.attemptAll xs).sound
  have hmem : x ∈ empty.accepted xs := List.mem_reverse.1 (List.mem_of_find?_eq_some h)
  have hx : x.descriptor ∈ (empty.attemptAll xs).methods := by
    rw [methods_empty_attemptAll]
    exact List.mem_map_of_mem hmem
  have hname : (empty.attemptAll xs).names.lookup c.type = some x.method := by
    rw [lookup_names_empty_attemptAll, h]
    rfl
  have hd : (empty.attemptAll xs).descriptor? x.method = some x.descriptor :=
    hsound.descriptor?_of_mem hx
  unfold Registry.lookupType
  rw [hname, Option.bind_some, hd]

/-! ## The names -/

theorem methodNames_perm (r : Registry) :
    r.methodNames.Perm (r.methods.map Descriptor.method) := List.mergeSort_perm _ _

theorem Sound.ascending_methodNames (hr : r.Sound) :
    r.methodNames.Pairwise fun a b => utf8 a < utf8 b := by
  have hle : r.methodNames.Pairwise fun a b => utf8 a ≤ utf8 b := by
    have hsorted : r.methodNames.Pairwise fun a b => decide (utf8 a ≤ utf8 b) = true := by
      apply List.pairwise_mergeSort
      · intro a b c hab hbc
        exact decide_eq_true (List.le_trans (of_decide_eq_true hab) (of_decide_eq_true hbc))
      · intro a b
        rw [Bool.or_eq_true, decide_eq_true_eq, decide_eq_true_eq]
        exact List.le_total (utf8 a) (utf8 b)
    exact hsorted.imp of_decide_eq_true
  have hne : r.methodNames.Pairwise fun a b => a ≠ b :=
    (methodNames_perm r).nodup_iff.2 hr.distinct
  refine (hle.and hne).imp fun h => ?_
  apply List.not_le.1
  intro hge
  exact h.2 (utf8_inj.1 (List.le_antisymm h.1 hge))

/-! ## Reading and writing -/

/-- A command is written under the name of its type, and read back as a command of the type that is
registered under the name. -/
theorem type_of_read_back {d : Descriptor} (hlookup : r.lookupType c = .ok d)
    (hd : r.descriptor? d.method = some d) {version : Version} {id : Id} {c' : Command}
    (hq : (r.marshalRequest version id c).result = .ok q)
    (hc : (r.unmarshalRequest q).result = .ok c') : q.method = d.method ∧ c'.type = d.type := by
  obtain ⟨e, params, he, _, hwritten⟩ := marshalRequest_eq_ok.1 hq
  rw [hlookup] at he
  cases he
  obtain ⟨e, he, _, hread⟩ := unmarshalRequest_eq_ok.1 hc
  have hmethod : q.method = d.method := by rw [hwritten]
  rw [hmethod, lookup_eq_ok, hd] at he
  cases he
  exact ⟨hmethod, (Command.type_of_ofSlots hread).symm⟩

theorem exists_marshalRequest_of_read (hc : (r.unmarshalRequest q).result = .ok c)
    {d : Descriptor} (hlookup : r.lookupType c = .ok d) (htype : d.type = c.type)
    (version : Version) (id : Id) :
    ∃ q', (r.marshalRequest version id c).result = .ok q' := by
  obtain ⟨_, _, _, hread⟩ := unmarshalRequest_eq_ok.1 hc
  have hw : Writable d.fields c.slots := by
    unfold Descriptor.fields
    rw [htype]
    exact Command.writable_of_ofSlots hread
  exact ⟨_, marshalRequest_eq_ok.2 ⟨d, _, hlookup, Descriptor.params_eq_ok.2 ⟨hw, rfl⟩, rfl⟩⟩

/-- What holds of a registry after every sequence of registrations, of which `done` succeed.

A name has the descriptor of the first of them under it, which no later registration changes; every
descriptor is orderly and that of the type that was registered; a type is known by the name of the
last of them, whose descriptor is of the type, so that no command of the type is read back as one of
another; the names are theirs, each once, in ascending order.  So a command that is read is of a type
that was registered under its method, and can be written again. -/
theorem attemptAll_history (xs : List Registration) :
    let r := empty.attemptAll xs
    let done := empty.accepted xs
    r.build.result = .ok r
    -- by name
    ∧ (∀ method, r.descriptor? method
        = (Registration.first? done method).map Registration.descriptor)
    ∧ (∀ later method d, r.descriptor? method = some d →
        (r.attemptAll later).descriptor? method = some d)
    -- descriptors
    ∧ (∀ d ∈ r.methods, d.Orderly
        ∧ ∃ x ∈ done, d.method = x.method ∧ d.flags = x.flags ∧ d.type = x.type)
    -- by type
    ∧ (∀ c : Command, c.type ∈ done.map Registration.type →
        ∃ x, Registration.last? done c.type = some x ∧ x.type = c.type
          ∧ r.methodOf c = .ok x.method ∧ r.descriptor? x.method = some x.descriptor
          ∧ ∀ version id q c', (r.marshalRequest version id c).result = .ok q →
            (r.unmarshalRequest q).result = .ok c' → q.method = x.method ∧ c'.type = c.type)
    -- names
    ∧ r.size = done.length
    ∧ r.methodNames.Pairwise (fun a b => utf8 a < utf8 b)
    ∧ (∀ method, method ∈ r.methodNames ↔ method ∈ done.map Registration.method)
    -- commands that were read
    ∧ ∀ q c, (r.unmarshalRequest q).result = .ok c →
        (∃ x ∈ done, x.method = q.method ∧ x.type = c.type)
        ∧ ∀ version id, ∃ q', (r.marshalRequest version id c).result = .ok q' := by
  intro r done
  have hsound : r.Sound := (Reachable.empty.attemptAll xs).sound
  have hmethods : r.methods = done.map Registration.descriptor := by
    show (empty.attemptAll xs).methods = _
    rw [attemptAll_eq]
    rfl
  have hfound : ∀ x ∈ done, r.descriptor? x.method = some x.descriptor := by
    intro x hx
    have hmem : x.descriptor ∈ r.methods := hmethods ▸ List.mem_map_of_mem hx
    exact hsound.descriptor?_of_mem hmem
  have hlast : ∀ c : Command, c.type ∈ done.map Registration.type →
      ∃ x ∈ done, x.type = c.type ∧ Registration.last? done c.type = some x
        ∧ r.lookupType c = .ok x.descriptor := by
    intro c hc
    obtain ⟨x, hx, htype, hlast⟩ := Registration.exists_last? hc
    exact ⟨x, hx, htype, hlast, lookupType_empty_attemptAll xs hlast⟩
  refine ⟨rfl, descriptor?_empty_attemptAll xs,
    fun later method d hd => descriptor?_attemptAll hd later,
    fun d hd => ⟨hsound.orderly_of_mem hd, ?_⟩, fun c hc => ?_, ?_, hsound.ascending_methodNames,
    fun method => ?_, fun q c hc => ?_⟩
  · rw [hmethods] at hd
    obtain ⟨x, hx, rfl⟩ := List.mem_map.1 hd
    exact ⟨x, hx, rfl, rfl, rfl⟩
  · obtain ⟨x, hx, htype, hlast, hlookup⟩ := hlast c hc
    refine ⟨x, hlast, htype, ?_, hfound x hx, fun version id q c' hq hc' => ?_⟩
    · unfold methodOf
      rw [hlookup]
      rfl
    · obtain ⟨hmethod, htype'⟩ := type_of_read_back hlookup (hfound x hx) hq hc'
      exact ⟨hmethod, htype'.trans htype⟩
  · unfold size
    rw [hmethods, List.length_map]
  · rw [(methodNames_perm r).mem_iff, hmethods, List.map_map]
    rfl
  · obtain ⟨d, hd, _, hread⟩ := unmarshalRequest_eq_ok.1 hc
    obtain ⟨hmem, hmethod⟩ := mem_of_lookup hd
    rw [hmethods] at hmem
    obtain ⟨x, hx, rfl⟩ := List.mem_map.1 hmem
    have htype : x.type = c.type := Command.type_of_ofSlots hread
    obtain ⟨y, _, hytype, _, hlookup⟩ := hlast c (List.mem_map.2 ⟨x, hx, htype⟩)
    exact ⟨⟨x, hx, hmethod, htype⟩, exists_marshalRequest_of_read hc hlookup hytype⟩

/-- A type that is registered under two names is known by the second; a name is not given twice. -/
example :
    let t := Catalog.getNetworkHashPs
    let xs : List Registration := [.declared t, ⟨t, "hashps", .walletOnly⟩, .declared t]
    empty.accepted xs = xs.take 2
      ∧ (empty.attemptAll xs).methodOf ⟨t, (none, none, ())⟩ = .ok "hashps" := by
  decide +kernel

end Registry

end NodeRpc
