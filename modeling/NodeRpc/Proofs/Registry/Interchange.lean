import NodeRpc.Proofs.Registry.Construction

/-!
# Null, omission and default

Three ways to say nothing of an optional parameter: leave it off, write null, or write its default.
A request reads the same whichever is used, at every place.  Arguments know no defaults; there it is
the word `null` that says nothing, as null and omission do.

* `Descriptor.Interchangeable`   parameters that say the same;
* `Sound.filled_eq`              they fill the same slots;
* `Exchanged`                    arguments that say the same;
* `Exchanged.coerceArgs_eq`      they are taken alike;
* `Reachable.interchange`        parameters and arguments that say the same make the same command.
-/

namespace NodeRpc

/-! ## Parameters -/

def withNulls (params : List Json) (k : Nat) : List Json := params ++ List.replicate k .null

/-- Parameters with a value written at a place; nulls lead up to it if the place was left off. -/
def withValue (params : List Json) (i : Nat) (v : Json) : List Json :=
  (withNulls params (i + 1 - params.length)).set i v

theorem length_withNulls (params : List Json) (k : Nat) :
    (withNulls params k).length = params.length + k := by
  rw [withNulls, List.length_append, List.length_replicate]

theorem getElem?_withNulls_of_lt {params : List Json} {k i : Nat} (h : i < params.length) :
    (withNulls params k)[i]? = params[i]? := List.getElem?_append_left h

namespace Descriptor

variable {d : Descriptor} {p q params : List Json}

/-- What parameters say at a place: the default where one is missing or null. -/
def said (d : Descriptor) (params : List Json) (i : Nat) : Option Json :=
  if params[i]? = none ∨ params[i]? = some .null then d.defaults[i]?.join else params[i]?

/-- Whether parameters say the same: both are as many as the method takes, and they agree at every
required place, and at every other once the default is put in for what is missing or null. -/
structure Interchangeable (d : Descriptor) (p q : List Json) : Prop where
  left : d.InRange p.length
  right : d.InRange q.length
  required : ∀ i, i < d.required → p[i]? = q[i]?
  optional : ∀ i, d.required ≤ i → i < d.fields.length → d.said p i = d.said q i

theorem said_withNulls (d : Descriptor) (params : List Json) (k i : Nat) :
    d.said (withNulls params k) i = d.said params i := by
  by_cases hi : i < params.length
  · unfold said
    rw [getElem?_withNulls_of_lt hi]
  · have hge : params.length ≤ i := Nat.le_of_not_lt hi
    have hblank : (withNulls params k)[i]? = none ∨ (withNulls params k)[i]? = some .null := by
      rw [withNulls, List.getElem?_append_right hge, List.getElem?_replicate]
      split
      · exact .inr rfl
      · exact .inl rfl
    unfold said
    rw [if_pos hblank, if_pos (.inl (List.getElem?_eq_none hge))]

theorem interchangeable_withNulls {k : Nat} (hp : d.InRange p.length)
    (hk : p.length + k ≤ d.fields.length) : d.Interchangeable p (withNulls p k) where
  left := hp
  right := by
    rw [length_withNulls]
    exact ⟨Nat.le_trans hp.1 (Nat.le_add_right _ _), hk⟩
  required i hi := (getElem?_withNulls_of_lt (Nat.lt_of_lt_of_le hi hp.1)).symm
  optional i _ _ := (d.said_withNulls p k i).symm

theorem interchangeable_withValue (hd : d.Orderly) {i : Nat} {v : Json} (hp : d.InRange p.length)
    (hdefault : d.defaults[i]? = some (some v)) (hblank : p[i]? = none ∨ p[i]? = some .null) :
    d.Interchangeable p (withValue p i v) := by
  obtain ⟨f, hf, ho, _⟩ := hd.default i v hdefault
  have hi : d.required ≤ i := by
    rw [← Nat.not_lt, ← hd.required i f hf, ho]
    exact fun h => nomatch h
  have hlt : i < d.fields.length := (List.getElem?_eq_some_iff.1 hf).1
  have hlength : (withValue p i v).length = p.length + (i + 1 - p.length) := by
    rw [withValue, List.length_set, length_withNulls]
  have hwritten : (withValue p i v)[i]? = some v := by
    refine List.getElem?_set_self ?_
    rw [length_withNulls]
    omega
  have hother : ∀ j, j ≠ i → (withValue p i v)[j]? = (withNulls p (i + 1 - p.length))[j]? :=
    fun j hj => List.getElem?_set_ne (Ne.symm hj)
  refine { left := hp, right := ?_, required := fun j hj => ?_, optional := fun j _ _ => ?_ }
  · rw [hlength]
    have hlow := hp.1
    have hhigh := hp.2
    unfold InRange
    omega
  · rw [hother j (by omega), getElem?_withNulls_of_lt (Nat.lt_of_lt_of_le hj hp.1)]
  · by_cases hj : j = i
    · subst hj
      have hset : d.said (withValue p j v) j = some v := by
        unfold said
        rw [hwritten, hdefault]
        split <;> rfl
      rw [hset]
      unfold said
      rw [if_pos hblank, hdefault]
      rfl
    · rw [← d.said_withNulls p (i + 1 - p.length) j]
      unfold said
      rw [hother j hj]

end Descriptor

/-! ## Arguments -/

/-- Whether an argument leaves an optional field unset: it is missing, null, or the word `null`. -/
def Unset (arg : Option Json) : Prop := ∀ v, arg = some v → leavesUnset v = true

/-- The slot that an argument fills, and that a missing one leaves. -/
def Field.coerceArg (f : Field) (index : Nat) : Option Json → Except CodecError (Option Json)
  | none => .ok none
  | some v => f.coerce index v

theorem Field.coerceArg_unset {f : Field} {index : Nat} {arg : Option Json}
    (ho : f.optional = true) (h : Unset arg) : f.coerceArg index arg = .ok none := by
  cases arg with
  | none => rfl
  | some v => exact Field.coerce_unset ho (h v rfl)

theorem coerceArgs_cons (index : Nat) (f : Field) (fields : List Field) (args : List Json) :
    coerceArgs index (f :: fields) args = f.coerceArg index args[0]? >>= fun slot =>
      coerceArgs (index + 1) fields args.tail >>= fun rest => pure (slot :: rest) := by
  cases args with
  | nil => rfl
  | cons v args => rfl

/-- Arguments that agree wherever they do not both leave an optional field unset. -/
def Exchanged (fields : List Field) (p q : List Json) : Prop :=
  ∀ i : Nat, p[i]? = q[i]?
    ∨ ∃ f : Field, fields[i]? = some f ∧ f.optional = true ∧ Unset p[i]? ∧ Unset q[i]?

namespace Exchanged

variable {fields : List Field} {p q : List Json}

theorem symm (h : Exchanged fields p q) : Exchanged fields q p := by
  intro i
  rcases h i with heq | ⟨f, hf, ho, hp, hq⟩
  · exact .inl heq.symm
  · exact .inr ⟨f, hf, ho, hq, hp⟩

theorem tail {f : Field} (h : Exchanged (f :: fields) p q) : Exchanged fields p.tail q.tail := by
  intro i
  rw [List.getElem?_tail, List.getElem?_tail]
  exact h (i + 1)

theorem coerceArgs_eq (h : Exchanged fields p q) (index : Nat) :
    coerceArgs index fields p = coerceArgs index fields q := by
  induction fields generalizing p q index with
  | nil => rfl
  | cons f fields ih =>
    have hhead : f.coerceArg index p[0]? = f.coerceArg index q[0]? := by
      rcases h 0 with heq | ⟨g, hg, ho, hp, hq⟩
      · rw [heq]
      · obtain rfl : f = g := Option.some.inj hg
        rw [Field.coerceArg_unset ho hp, Field.coerceArg_unset ho hq]
    rw [coerceArgs_cons, coerceArgs_cons, hhead, ih h.tail (index + 1)]

/-- If one of them is longer then both are as many as the method takes. -/
theorem inRange_of_lt {d : Descriptor} (hd : d.Orderly) (h : Exchanged d.fields p q)
    (hlt : p.length < q.length) : d.InRange p.length ∧ d.InRange q.length := by
  have hdiffer : ∀ i, p.length ≤ i → i < q.length →
      ∃ f, d.fields[i]? = some f ∧ f.optional = true := by
    intro i hp hq
    rcases h i with heq | ⟨f, hf, ho, _⟩
    · rw [List.getElem?_eq_none hp, List.getElem?_eq_getElem hq] at heq
      cases heq
    · exact ⟨f, hf, ho⟩
  -- the first place where only one of them has an argument, and the last
  obtain ⟨f, hf, ho⟩ := hdiffer p.length (Nat.le_refl _) hlt
  obtain ⟨g, hg, _⟩ := hdiffer (q.length - 1) (by omega) (by omega)
  have hlow : ¬ p.length < d.required := by
    rw [← hd.required p.length f hf, ho]
    exact fun h => nomatch h
  have hhigh := (List.getElem?_eq_some_iff.1 hg).1
  unfold Descriptor.InRange
  omega

end Exchanged

/-! ## Registries -/

namespace Registry

variable {r : Registry} {method : String} {d : Descriptor} {p q : List Json}

theorem Sound.said_eq (hr : r.Sound) (hd : d ∈ r.methods) {i : Nat} {f : Field}
    (hf : d.fields[i]? = some f) (ho : f.optional = true) (params : List Json) :
    d.said params i = f.received params[i]? := by
  unfold Descriptor.said Field.received
  rw [hr.defaults_eq hd, List.getElem?_map, hf]
  by_cases hblank : params[i]? = none ∨ params[i]? = some .null
  · rw [if_pos hblank, if_pos ⟨ho, hblank⟩]
    rfl
  · rw [if_neg hblank, if_neg fun h => hblank h.2]

/-- Parameters that say the same fill the same slots. -/
theorem Sound.filled_eq (hr : r.Sound) (hd : d ∈ r.methods) (h : d.Interchangeable p q) :
    filled d.fields p = filled d.fields q := by
  have horderly := hr.orderly_of_mem hd
  refine List.ext_getElem? fun i => ?_
  rw [(hr.covered_of_inRange hd h.left).getElem?_filled,
    (hr.covered_of_inRange hd h.right).getElem?_filled]
  cases hf : d.fields[i]? with
  | none => rfl
  | some f =>
    refine congrArg some ?_
    rcases Nat.lt_or_ge i d.required with hi | hi
    · rw [h.required i hi]
    · have ho : f.optional = true := by
        rw [← Bool.not_eq_false, horderly.required i f hf]
        exact Nat.not_lt.2 hi
      show f.received p[i]? = f.received q[i]?
      rw [← hr.said_eq hd hf ho, ← hr.said_eq hd hf ho]
      exact h.optional i hi (List.getElem?_eq_some_iff.1 hf).1

theorem Sound.unmarshalRequest_eq_of_interchangeable (hr : r.Sound)
    (hd : r.descriptor? method = some d) (h : d.Interchangeable p q) (version : Version) (id : Id) :
    (r.unmarshalRequest ⟨version, method, p, id⟩).result
      = (r.unmarshalRequest ⟨version, method, q, id⟩).result := by
  have hfilled : filled d.type.fields p = filled d.type.fields q :=
    hr.filled_eq (mem_of_descriptor? hd) h
  rw [hr.unmarshalRequest_of_select (select_of_inRange hd h.left),
    hr.unmarshalRequest_of_select (select_of_inRange hd h.right), hfilled]

theorem Sound.newCommand_eq_of_exchanged (hr : r.Sound) (hd : r.descriptor? method = some d)
    (h : Exchanged d.fields p q) :
    (r.newCommand method p).result = (r.newCommand method q).result := by
  have horderly := hr.orderly_of_mem (mem_of_descriptor? hd)
  have hselect : r.select method p.length = r.select method q.length := by
    rcases Nat.lt_trichotomy p.length q.length with hlt | heq | hgt
    · obtain ⟨hp, hq⟩ := h.inRange_of_lt horderly hlt
      rw [select_of_inRange hd hp, select_of_inRange hd hq]
    · rw [heq]
    · obtain ⟨hq, hp⟩ := h.symm.inRange_of_lt horderly hgt
      rw [select_of_inRange hd hp, select_of_inRange hd hq]
  rw [newCommand_eq, newCommand_eq, hselect]
  rcases r.select_cases method q.length with ⟨e, he, _⟩ | ⟨d', hd', _, he⟩
  · rw [he]
    rfl
  · obtain rfl : d = d' := Option.some.inj (hd.symm.trans hd')
    rw [he]
    show (coerceArgs 0 d.fields p >>= Command.ofSlots d.type)
      = (coerceArgs 0 d.fields q >>= Command.ofSlots d.type)
    rw [h.coerceArgs_eq 0]

/-- Parameters that agree at required places, and at optional ones once the default is put in for
what is missing or null, make the same command or fail alike.  So nulls at the end can be dropped,
and a default can be written out or left out.  Arguments make the same command, or fail alike, also
when at optional places nulls, the word `null` and nothing are exchanged for one another. -/
theorem Reachable.interchange (hr : r.Reachable) (hd : r.descriptor? method = some d)
    (version : Version) (id : Id) :
    let read := fun params => (r.unmarshalRequest ⟨version, method, params, id⟩).result
    (∀ p q, d.Interchangeable p q → read p = read q)
    ∧ (∀ p k, d.InRange p.length → p.length + k ≤ d.fields.length →
      read (withNulls p k) = read p)
    ∧ (∀ p i v, d.InRange p.length → d.defaults[i]? = some (some v) →
      p[i]? = none ∨ p[i]? = some .null → read (withValue p i v) = read p)
    ∧ ∀ p q, Exchanged d.fields p q →
      (r.newCommand method p).result = (r.newCommand method q).result := by
  intro read
  have horderly := hr.sound.orderly_of_mem (mem_of_descriptor? hd)
  have hread : ∀ p q, d.Interchangeable p q → read p = read q :=
    fun p q h => hr.sound.unmarshalRequest_eq_of_interchangeable hd h version id
  refine ⟨hread, fun p k hp hk => ?_, fun p i v hp hdefault hblank => ?_, fun p q h => ?_⟩
  · exact (hread _ _ (Descriptor.interchangeable_withNulls hp hk)).symm
  · exact (hread _ _ (Descriptor.interchangeable_withValue horderly hp hdefault hblank)).symm
  · exact hr.sound.newCommand_eq_of_exchanged hd h

/-- A default that is written out, null and omission, and the word `null` as an argument. -/
theorem interchange_getNetworkHashPs :
    let t := Catalog.getNetworkHashPs
    let r := empty.add (t.descriptor t.method t.flags)
    let read := fun params => (r.unmarshalRequest ⟨.v1, t.method, params, .null⟩).result
    let five : Json := .number (.integer 5 (by decide) (by decide))
    let standing : Json := .number (.integer 120 (by decide) (by decide))
    read [] = .ok ⟨t, (some ⟨120, by decide, by decide⟩, some ⟨-1, by decide, by decide⟩, ())⟩
    ∧ read [.null, .null] = read [] ∧ read [standing, five] = read [.null, five]
    ∧ (r.newCommand t.method [.string "null"]).result = (r.newCommand t.method []).result := by
  intro t r read five standing
  have hr : r.Reachable := .single (by decide +kernel) (by decide)
  have hd : r.descriptor? t.method = some (t.descriptor t.method t.flags) :=
    hr.sound.descriptor?_of_mem List.mem_cons_self
  obtain ⟨_, hnulls, hvalue, hexchanged⟩ := hr.interchange hd .v1 .null
  refine ⟨by decide +kernel, ?_, ?_, ?_⟩
  · exact hnulls [] 2 ⟨by decide, by decide⟩ (by decide)
  · exact hvalue [.null, five] 0 standing ⟨by decide, by decide⟩ (by decide +kernel) (.inr rfl)
  · refine hexchanged [.string "null"] [] fun i => ?_
    cases i with
    | zero =>
      refine .inr ⟨_, rfl, rfl, fun v hv => ?_, fun v hv => (nomatch hv)⟩
      cases hv
      rfl
    | succ i => exact .inl rfl

end Registry

end NodeRpc
