import NodeRpc.Proofs.Registry.History
import NodeRpc.Registry.Help

/-!
# The order of registrations

Registrations under distinct names do not get in each other's way: which of them succeed does not
depend on their order, and neither does what the registry answers about a name.  Only the name of a
type that is registered more than once does: it is that of the last registration of the type.

* `Registry.accepted_perm`     the same registrations succeed in every order;
* `Registry.SameDescriptors`   registries that answer alike about names, and so by name;
* `Registration.last?_perm`    the name of a type with one registration is the same in any order;
* `Registry.attemptAll_perm`   what two orders have in common, and what each decides.
-/

namespace NodeRpc

namespace Registration

/-- Whether a registration succeeds where its name is free: its flags are known and its table
fits. -/
def Admissible (x : Registration) : Prop :=
  x.flags.hasUnknownBits = false ∧ Fits .start x.type.fields

def ofType (done : List Registration) (t : CommandType) : List Registration :=
  done.filter fun x => x.type = t

/-- The last registration of a type is the same in every order, if there are not more. -/
theorem last?_perm {done done' : List Registration} (h : done.Perm done') {t : CommandType}
    (hone : (ofType done t).length ≤ 1) : last? done t = last? done' t := by
  have hperm : (ofType done' t).Perm (ofType done t) := (h.filter _).symm
  have heq : ofType done' t = ofType done t := by
    cases hfound : ofType done t with
    | nil =>
      rw [hfound] at hperm
      exact hperm.eq_nil
    | cons x more =>
      rw [hfound, List.length_cons] at hone
      obtain rfl : more = [] := List.length_eq_zero_iff.1 (by omega)
      rw [hfound] at hperm
      exact List.perm_singleton.1 hperm
  unfold last?
  rw [← List.head?_filter, ← List.head?_filter, List.filter_reverse, List.filter_reverse]
  unfold ofType at heq
  rw [heq]

end Registration

namespace Registry

variable {r s : Registry} {x : Registration} {xs ys : List Registration}

/-! ## Which registrations succeed -/

theorem has_add (r : Registry) (d : Descriptor) (method : String) :
    (r.add d).has method = (r.has method || decide (d.method = method)) := by
  unfold has descriptor? add
  rw [List.find?_append, Option.isSome_or, List.find?_singleton]
  congr 1
  by_cases h : d.method = method <;> simp [h]

theorem accepted_cons_of_admissible (hfree : r.has x.method = false) (hx : x.Admissible)
    (xs : List Registration) :
    r.accepted (x :: xs) = x :: (r.add x.descriptor).accepted xs := by
  have hstep : (r.registerAs x.type x.method x.flags).result = .ok (r.add x.descriptor) :=
    registerAs_eq_ok.2 ⟨hfree, hx.1, hx.2, rfl⟩
  rw [accepted, hstep]

theorem accepted_cons_of_not_admissible (hx : ¬ x.Admissible) (r : Registry)
    (xs : List Registration) : r.accepted (x :: xs) = r.accepted xs := by
  cases hstep : (r.registerAs x.type x.method x.flags).result with
  | ok r' =>
    obtain ⟨_, hflags, hfits, _⟩ := registerAs_eq_ok.1 hstep
    exact absurd ⟨hflags, hfits⟩ hx
  | error e => rw [accepted, hstep]

theorem accepted_sublist (r : Registry) (xs : List Registration) :
    (r.accepted xs).Sublist xs := by
  induction xs generalizing r with
  | nil => exact List.Sublist.slnil
  | cons x xs ih =>
    rcases attempt_cases r x xs with ⟨_, _, haccepted⟩ | ⟨_, haccepted⟩
    · rw [haccepted]
      exact (ih _).cons_cons x
    · rw [haccepted]
      exact (ih r).cons x

/-- Under distinct free names exactly the admissible registrations succeed. -/
theorem mem_accepted (hnames : (xs.map Registration.method).Nodup)
    (hfree : ∀ y ∈ xs, r.has y.method = false) :
    x ∈ r.accepted xs ↔ x ∈ xs ∧ x.Admissible := by
  induction xs generalizing r with
  | nil => exact ⟨fun h => (nomatch h), fun h => (nomatch h.1)⟩
  | cons y xs ih =>
    obtain ⟨hname, hnames⟩ := List.nodup_cons.1 hnames
    obtain ⟨hy, hfree⟩ := List.forall_mem_cons.1 hfree
    by_cases hadm : y.Admissible
    · have hlater : ∀ z ∈ xs, (r.add y.descriptor).has z.method = false := by
        intro z hz
        have hne : y.method ≠ z.method := fun heq => hname (heq ▸ List.mem_map_of_mem hz)
        rw [has_add, hfree z hz]
        exact decide_eq_false hne
      rw [accepted_cons_of_admissible hy hadm, List.mem_cons, List.mem_cons, ih hnames hlater]
      constructor
      · rintro (rfl | ⟨hmem, hx⟩)
        · exact ⟨.inl rfl, hadm⟩
        · exact ⟨.inr hmem, hx⟩
      · rintro ⟨rfl | hmem, hx⟩
        · exact .inl rfl
        · exact .inr ⟨hmem, hx⟩
    · rw [accepted_cons_of_not_admissible hadm, List.mem_cons, ih hnames hfree]
      constructor
      · rintro ⟨hmem, hx⟩
        exact ⟨.inr hmem, hx⟩
      · rintro ⟨rfl | hmem, hx⟩
        · exact absurd hx hadm
        · exact ⟨hmem, hx⟩

theorem mem_empty_accepted (hnames : (xs.map Registration.method).Nodup) :
    x ∈ empty.accepted xs ↔ x ∈ xs ∧ x.Admissible :=
  mem_accepted hnames fun _ _ => rfl

/-- The same registrations succeed in every order. -/
theorem accepted_perm (h : xs.Perm ys) (hnames : (xs.map Registration.method).Nodup) :
    (empty.accepted xs).Perm (empty.accepted ys) := by
  have hnames' : (ys.map Registration.method).Nodup := (h.map _).nodup hnames
  have hnodup : (empty.accepted xs).Nodup := (accepted_sublist _ xs).nodup hnames.of_map
  have hnodup' : (empty.accepted ys).Nodup := (accepted_sublist _ ys).nodup hnames'.of_map
  rw [List.perm_ext_iff_of_nodup hnodup hnodup']
  intro x
  rw [mem_empty_accepted hnames, mem_empty_accepted hnames', h.mem_iff]

theorem accepted_eq_or_fails (h : xs.Perm ys) (hnames : (xs.map Registration.method).Nodup) :
    (empty.accepted xs = xs ∧ empty.accepted ys = ys)
      ∨ ((∃ x ∈ xs, x ∉ empty.accepted xs) ∧ ∃ y ∈ ys, y ∉ empty.accepted ys) := by
  have hnames' : (ys.map Registration.method).Nodup := (h.map _).nodup hnames
  by_cases hall : ∀ x ∈ xs, x.Admissible
  · have heq : ∀ zs : List Registration, (zs.map Registration.method).Nodup →
        (∀ z ∈ zs, z.Admissible) → empty.accepted zs = zs := by
      intro zs hzs hadm
      have hsub : (empty.accepted zs).Sublist zs := accepted_sublist _ zs
      have hperm : (empty.accepted zs).Perm zs := by
        rw [List.perm_ext_iff_of_nodup (hsub.nodup hzs.of_map) hzs.of_map]
        intro z
        rw [mem_empty_accepted hzs, and_iff_left_of_imp (hadm z)]
      exact hsub.eq_of_length hperm.length_eq
    exact .inl ⟨heq xs hnames hall, heq ys hnames' fun y hy => hall y (h.mem_iff.2 hy)⟩
  · obtain ⟨x, hx, hadm⟩ : ∃ x ∈ xs, ¬ x.Admissible := by
      by_contra hnone
      exact hall fun x hx => by_contra fun hadm => hnone ⟨x, hx, hadm⟩
    exact .inr ⟨⟨x, hx, fun hmem => hadm ((mem_empty_accepted hnames).1 hmem).2⟩,
      ⟨x, h.mem_iff.1 hx, fun hmem => hadm ((mem_empty_accepted hnames').1 hmem).2⟩⟩

/-! ## Answers by name -/

def SameDescriptors (r s : Registry) : Prop := ∀ method, r.descriptor? method = s.descriptor? method

theorem Sound.sameDescriptors_of_perm (hs : s.Sound) (h : r.methods.Perm s.methods) :
    SameDescriptors r s := by
  intro method
  cases hfound : r.descriptor? method with
  | none =>
    symm
    apply List.find?_eq_none.2
    intro d hd
    exact List.find?_eq_none.1 hfound d (h.mem_iff.2 hd)
  | some d =>
    have hmethod : d.method = method := of_decide_eq_true (List.find?_some hfound :)
    have hd : s.descriptor? d.method = some d :=
      hs.descriptor?_of_mem (h.mem_iff.1 (mem_of_descriptor? hfound))
    rw [← hmethod, hd]

theorem Sound.methodNames_eq (hr : r.Sound) (hs : s.Sound) (h : r.methods.Perm s.methods) :
    r.methodNames = s.methodNames := by
  have hasymm : ∀ a b : String, a ∈ r.methodNames → b ∈ s.methodNames →
      utf8 a < utf8 b → utf8 b < utf8 a → a = b := by
    intro a b _ _ hab hba
    exact absurd hba (List.lt_asymm hab)
  have hperm : r.methodNames.Perm s.methodNames :=
    (methodNames_perm r).trans ((h.map _).trans (methodNames_perm s).symm)
  exact hperm.eq_of_pairwise hasymm hr.ascending_methodNames hs.ascending_methodNames

namespace SameDescriptors

variable (h : SameDescriptors r s)

include h

theorem has_eq (method : String) : r.has method = s.has method := by
  unfold has
  rw [h method]

theorem lookup_eq (method : String) : r.lookup method = s.lookup method := by
  unfold Registry.lookup
  rw [h method]

theorem usageText_eq (method : String) : r.usageText method = s.usageText method := by
  unfold usageText
  rw [h.lookup_eq]

theorem helpText_eq (method : String) : r.helpText method = s.helpText method := by
  unfold helpText
  rw [h.lookup_eq]

theorem newCommand_eq (method : String) (args : List Json) :
    r.newCommand method args = s.newCommand method args := by
  unfold newCommand
  rw [h.lookup_eq]

theorem unmarshalRequest_eq (q : Request) : r.unmarshalRequest q = s.unmarshalRequest q := by
  unfold unmarshalRequest receive
  rw [h.lookup_eq]

theorem lookupType_eq {c : Command} (hname : r.names.lookup c.type = s.names.lookup c.type) :
    r.lookupType c = s.lookupType c := by
  have hfound : r.descriptor? = s.descriptor? := funext h
  unfold Registry.lookupType
  rw [hname, hfound]

theorem methodOf_eq {c : Command} (hname : r.names.lookup c.type = s.names.lookup c.type) :
    r.methodOf c = s.methodOf c := by
  unfold methodOf
  rw [h.lookupType_eq hname]

theorem marshalRequest_eq {c : Command} (hname : r.names.lookup c.type = s.names.lookup c.type)
    (version : Version) (id : Id) :
    r.marshalRequest version id c = s.marshalRequest version id c := by
  unfold marshalRequest
  rw [h.lookupType_eq hname]

end SameDescriptors

/-! ## Two orders -/

theorem marshalRequest_of_lookupType {c : Command} {d : Descriptor} (h : r.lookupType c = .ok d)
    (version : Version) (id : Id) :
    (r.marshalRequest version id c).result
      = (d.params c.slots).map fun params => ⟨version, d.method, params, id⟩ := by
  unfold marshalRequest
  rw [h]
  simp only [Logged.result_bind, Logged.result_quiet, Logged.result_emit, Logged.result_pure]
  show (d.params c.slots >>= fun params => Except.ok (Request.mk version d.method params id))
    = _
  cases d.params c.slots with
  | ok params => rfl
  | error e => rfl

/-- Whether a registry knows the commands of each type by the last of some registrations of the
type, and writes them under its name. -/
def KnowsByLast (r : Registry) (done : List Registration) : Prop :=
  ∀ c : Command, c.type ∈ done.map Registration.type →
    ∃ x ∈ done, Registration.last? done c.type = some x ∧ x.type = c.type
      ∧ r.methodOf c = .ok x.method
      ∧ ∀ version id, (r.marshalRequest version id c).result
          = (x.descriptor.params c.slots).map fun params => ⟨version, x.method, params, id⟩

theorem knowsByLast_attemptAll (xs : List Registration) :
    (empty.attemptAll xs).KnowsByLast (empty.accepted xs) := by
  intro c hc
  obtain ⟨x, hx, htype, hlast⟩ := Registration.exists_last? hc
  have hlookup := lookupType_empty_attemptAll xs hlast
  refine ⟨x, hx, hlast, htype, ?_, marshalRequest_of_lookupType hlookup⟩
  unfold methodOf
  rw [hlookup]
  rfl

/-- Two orders of registrations under distinct names.

All of them succeed in both orders, or in both there is one that fails; and the same ones succeed.
The registries answer alike whatever is asked by name; about commands of a type with at most one
registration too; a type with several is known by the last one in each order. -/
theorem attemptAll_perm (h : xs.Perm ys) (hnames : (xs.map Registration.method).Nodup) :
    let r := empty.attemptAll xs
    let s := empty.attemptAll ys
    let done := empty.accepted xs
    let done' := empty.accepted ys
    -- success
    ((done = xs ∧ done' = ys) ∨ ((∃ x ∈ xs, x ∉ done) ∧ ∃ y ∈ ys, y ∉ done'))
    ∧ done.Perm done'
    -- by name
    ∧ (∀ method, r.has method = s.has method)
    ∧ (∀ method, r.descriptor? method = s.descriptor? method)
    ∧ r.methodNames = s.methodNames
    ∧ (∀ method, r.usageText method = s.usageText method)
    ∧ (∀ method, r.helpText method = s.helpText method)
    ∧ (∀ method args, r.newCommand method args = s.newCommand method args)
    ∧ (∀ q, r.unmarshalRequest q = s.unmarshalRequest q)
    -- by type
    ∧ (∀ c : Command, (Registration.ofType done c.type).length ≤ 1 →
        r.methodOf c = s.methodOf c
          ∧ ∀ version id, r.marshalRequest version id c = s.marshalRequest version id c)
    ∧ r.KnowsByLast done ∧ s.KnowsByLast done' := by
  intro r s done done'
  have hdone : done.Perm done' := accepted_perm h hnames
  have hr : r.Sound := (Reachable.empty.attemptAll xs).sound
  have hs : s.Sound := (Reachable.empty.attemptAll ys).sound
  have hmethods : r.methods.Perm s.methods := by
    rw [methods_empty_attemptAll, methods_empty_attemptAll]
    exact hdone.map _
  have hsame : SameDescriptors r s := hs.sameDescriptors_of_perm hmethods
  refine ⟨accepted_eq_or_fails h hnames, hdone, hsame.has_eq, hsame, hr.methodNames_eq hs hmethods,
    hsame.usageText_eq, hsame.helpText_eq, hsame.newCommand_eq, hsame.unmarshalRequest_eq,
    fun c hone => ?_, knowsByLast_attemptAll xs, knowsByLast_attemptAll ys⟩
  have hname : r.names.lookup c.type = s.names.lookup c.type := by
    rw [lookup_names_empty_attemptAll, lookup_names_empty_attemptAll,
      Registration.last?_perm hdone hone]
  exact ⟨hsame.methodOf_eq hname, hsame.marshalRequest_eq hname⟩

/-- A type with two names, registered in both orders: requests are read alike, and the type is
written under the name that came last. -/
theorem attemptAll_perm_getNetworkHashPs :
    let t := Catalog.getNetworkHashPs
    let c : Command := ⟨t, (none, none, ())⟩
    let xs : List Registration := [.declared t, ⟨t, "hashps", .walletOnly⟩]
    let ys : List Registration := [⟨t, "hashps", .walletOnly⟩, .declared t]
    (∀ q, (empty.attemptAll xs).unmarshalRequest q = (empty.attemptAll ys).unmarshalRequest q)
      ∧ (empty.attemptAll xs).methodNames = (empty.attemptAll ys).methodNames
      ∧ (empty.attemptAll xs).methodOf c = .ok "hashps"
      ∧ (empty.attemptAll ys).methodOf c = .ok "getnetworkhashps" := by
  intro t c xs ys
  obtain ⟨_, _, _, _, hnames, _, _, _, hread, _⟩ :=
    attemptAll_perm (List.Perm.swap _ _ _ : xs.Perm ys) (by decide)
  refine ⟨hread, hnames, ?_, ?_⟩ <;> decide +kernel

end Registry

end NodeRpc
