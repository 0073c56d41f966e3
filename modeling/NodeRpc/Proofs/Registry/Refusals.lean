import NodeRpc.Proofs.Registry.History

/-!
# What becomes of a request

A request is refused for its method, then for the number of its parameters, then for the first
parameter that its field does not accept; otherwise it is read as a command.  Defaults never matter
for this: they were accepted when the type was registered.

* `Field.Refuses`                        a parameter that is not accepted, and no null that unsets;
* `RequestOutcome`                       the four ways a request can go, and every request goes one
                                         of them;
* `Reachable.unmarshalRequest_outcome`   when it goes which way.
-/

namespace NodeRpc

def FailsWith {α : Type} (x : Except CodecError α) (code : ErrorCode) : Prop :=
  ∃ e, x = .error e ∧ e.code = code

@[simp] theorem failsWith_error {α : Type} {e : CodecError} {code : ErrorCode} :
    FailsWith (.error e : Except CodecError α) code ↔ e.code = code := by
  constructor
  · rintro ⟨e', he, hcode⟩
    cases he
    exact hcode
  · intro hcode
    exact ⟨e, rfl, hcode⟩

@[simp] theorem not_failsWith_ok {α : Type} {a : α} {code : ErrorCode} :
    ¬ FailsWith (.ok a : Except CodecError α) code := by
  rintro ⟨e, he, _⟩
  cases he

/-! ## One parameter -/

namespace Field

variable {f : Field} {v : Json}

/-- Whether a field refuses a parameter: it does not accept it, and the parameter is no null that
leaves an optional field unset. -/
def Refuses (f : Field) (v : Json) : Prop :=
  ¬ (f.optional = true ∧ v = .null) ∧ f.accepts v = false

theorem accepts_of_not_refuses (h : ¬ f.Refuses v) (hv : f.optional = true → v ≠ .null) :
    f.accepts v = true := by
  cases hacc : f.accepts v with
  | true => rfl
  | false => exact absurd ⟨fun hnull => hv hnull.1 hnull.2, hacc⟩ h

theorem Refuses.isNull_eq_false (h : f.Refuses v) (ho : f.optional = true) : v.isNull = false := by
  cases hnull : v.isNull with
  | false => rfl
  | true => exact absurd ⟨ho, Json.isNull_iff.1 hnull⟩ h.1

/-- What a field refuses stands for no entry, for the reason why it does not decode. -/
theorem read_of_refuses (h : f.Refuses v) :
    ∃ cause, f.schema.decode v = .error cause ∧ f.read (some v) = .error cause := by
  have hset := h.isNull_eq_false
  obtain ⟨cause, hcause⟩ : ∃ cause, f.schema.decode v = .error cause := by
    have hacc := h.2
    unfold accepts Schema.accepts at hacc
    cases hd : f.schema.decode v with
    | error cause => exact ⟨cause, rfl⟩
    | ok a =>
      rw [hd] at hacc
      cases hacc
  refine ⟨cause, hcause, ?_⟩
  obtain ⟨name, schema, kind, optional, text, usage, description⟩ := f
  cases optional with
  | false => exact hcause
  | true =>
    show (if v.isNull = true then Except.ok none else (schema.decode v).map some) = .error cause
    rw [hset rfl, hcause]
    rfl

theorem reads_default (hf : f.DefaultFits) (ho : f.optional = true) : f.Reads f.default? := by
  cases hdefault : f.default? with
  | none => exact (reads_unset ho).1
  | some v => exact reads_of_accepts (hf.of_default hdefault).2

/-- What the decoder is handed for a parameter stands for an entry, unless the parameter is
refused.  One that is missing must be that of an optional field. -/
theorem reads_received_iff (hf : f.DefaultFits) {param : Option Json}
    (hp : f.optional = false → param ≠ none) :
    f.Reads (f.received param) ↔ ∀ v, param = some v → ¬ f.Refuses v := by
  by_cases hunset : f.optional = true ∧ (param = none ∨ param = some .null)
  · have hreceived : f.received param = f.default? := if_pos hunset
    rw [hreceived]
    refine ⟨fun _ v hv hr => ?_, fun _ => reads_default hf hunset.1⟩
    subst hv
    rcases hunset.2 with hnone | hnull
    · cases hnone
    · exact hr.1 ⟨hunset.1, Option.some.inj hnull⟩
  · have hreceived : f.received param = param := if_neg hunset
    rw [hreceived]
    cases param with
    | none =>
      have ho : f.optional ≠ false := fun ho => hp ho rfl
      exact absurd ⟨eq_true_of_ne_false ho, .inl rfl⟩ hunset
    | some v =>
      have hset : f.optional = true → v ≠ .null := by
        intro ho hv
        exact hunset ⟨ho, .inr (congrArg some hv)⟩
      constructor
      · rintro ⟨e, he⟩ w hw hr
        cases hw
        obtain ⟨cause, _, herror⟩ := read_of_refuses hr
        rw [he] at herror
        cases herror
      · intro h
        exact reads_of_accepts (accepts_of_not_refuses (h v rfl) hset)

end Field

/-! ## All parameters -/

section Params

variable {fields : List Field} {params : List Json}

/-- What a table and some parameters must satisfy so that only a parameter can be refused: the
defaults fit, and the parameters of required fields are there. -/
structure Covered (fields : List Field) (params : List Json) : Prop where
  defaults : ∀ f ∈ fields, f.DefaultFits
  required : ∀ (i : Nat) (f : Field), fields[i]? = some f → f.optional = false → params[i]? ≠ none

abbrev filled (fields : List Field) (params : List Json) : List (Option Json) :=
  fillSlots fields (fields.map Field.default?) params

theorem Covered.getElem?_filled (h : Covered fields params) (i : Nat) :
    (filled fields params)[i]? = fields[i]?.map fun f => f.received params[i]? := by
  rw [filled, fillSlots_eq_mapIdx h.defaults, List.getElem?_mapIdx]

theorem Covered.reads_iff (h : Covered fields params) {i : Nat} {f : Field}
    (hf : fields[i]? = some f) {slot : Option Json}
    (hslot : (filled fields params)[i]? = some slot) :
    f.Reads slot ↔ ∀ v, params[i]? = some v → ¬ f.Refuses v := by
  rw [h.getElem?_filled, hf, Option.map_some, Option.some_inj] at hslot
  rw [← hslot]
  exact Field.reads_received_iff (h.defaults f (List.mem_of_getElem? hf)) (h.required i f hf)

theorem Covered.firstWhere_refuses (h : Covered fields params) {i : Nat} {f : Field}
    {slot : Option Json}
    (hfirst : FirstWhere (fun f slot => ¬ f.Reads slot) fields (filled fields params) i f slot) :
    ∃ v, slot = some v ∧ FirstWhere Field.Refuses fields params i f v := by
  have hfound : ∃ v, params[i]? = some v ∧ f.Refuses v := by
    by_contra hnone
    refine hfirst.holds ((h.reads_iff hfirst.field hfirst.here).2 fun v hv hr => ?_)
    exact hnone ⟨v, hv, hr⟩
  obtain ⟨v, hv, hr⟩ := hfound
  have hslot : f.received (some v) = slot := by
    have hhere := hfirst.here
    rw [h.getElem?_filled, hfirst.field, hv] at hhere
    exact Option.some.inj hhere
  rw [Field.received_some hr.isNull_eq_false] at hslot
  refine ⟨v, hslot.symm, ⟨hfirst.field, hv, hr, fun j g w hlt hg hw hrefused => ?_⟩⟩
  have hj : (filled fields params)[j]? = some (g.received (some w)) := by
    rw [h.getElem?_filled, hg, hw]
    rfl
  refine hfirst.before j g _ hlt hg hj fun hreads => ?_
  exact (h.reads_iff hg hj).1 hreads w hw hrefused

theorem Covered.not_refuses (h : Covered fields params)
    (hall : ∀ f slot, (f, slot) ∈ fields.zip (filled fields params) → f.Reads slot) {f : Field}
    {v : Json} (hmem : (f, v) ∈ fields.zip params) : ¬ f.Refuses v := by
  obtain ⟨i, hi⟩ := List.getElem?_of_mem hmem
  obtain ⟨hf, hv⟩ := List.getElem?_zip_eq_some.1 hi
  have hslot : (filled fields params)[i]? = some (f.received (some v)) := by
    rw [h.getElem?_filled, hf, hv]
    rfl
  exact (h.reads_iff hf hslot).1 (hall f _ (mem_zip_of_getElem? hf hslot)) v hv

/-- Covered parameters are read as a command, or the first that is refused is named. -/
theorem Covered.read_cases {t : CommandType} (h : Covered t.fields params) :
    ((∃ row, Row.ofSlots 0 t.fields (filled t.fields params) = .ok row
        ∧ Command.ofSlots t (filled t.fields params) = .ok (.ofRow t row))
      ∧ ∀ f v, (f, v) ∈ t.fields.zip params → ¬ f.Refuses v)
    ∨ ∃ i f v cause, FirstWhere Field.Refuses t.fields params i f v
      ∧ f.schema.decode v = .error cause
      ∧ Command.ofSlots t (filled t.fields params) = .error (.badParam (f.ref i) cause) := by
  have hlength := length_fillSlots t.fields (t.fields.map Field.default?) params
  rcases Command.ofSlots_cases hlength with
    ⟨hrow, hall⟩ | ⟨i, f, slot, cause, hfirst, hcause, herror⟩
  · exact .inl ⟨hrow, fun f v hmem => h.not_refuses hall hmem⟩
  · obtain ⟨v, rfl, hrefused⟩ := h.firstWhere_refuses hfirst
    obtain ⟨cause', hdecode, hread⟩ := Field.read_of_refuses hrefused.holds
    rw [hcause] at hread
    cases hread
    exact .inr ⟨i, f, v, cause, hrefused, hdecode, herror⟩

end Params

/-! ## The method -/

def Descriptor.InRange (d : Descriptor) (received : Nat) : Prop :=
  d.required ≤ received ∧ received ≤ d.fields.length

theorem Descriptor.checkCount_eq_ok {d : Descriptor} {received : Nat} :
    d.checkCount received = .ok () ↔ d.InRange received := by
  unfold checkCount InRange
  split
  · rename_i h
    exact iff_of_true rfl h
  · rename_i h
    exact iff_of_false nofun h

namespace Registry

/-- The descriptor of a method, if the method takes that many parameters. -/
def select (r : Registry) (method : String) (received : Nat) : Except CodecError Descriptor := do
  let d ← r.lookup method
  d.checkCount received
  return d

/-- What becomes of a method and a number of parameters. -/
inductive Selection (r : Registry) (method : String) (received : Nat) :
    Except CodecError Descriptor → Prop
  /-- The method is unknown. -/
  | unregistered : r.descriptor? method = none →
    Selection r method received (.error (.unregisteredMethod method))
  /-- There are too few parameters, or too many. -/
  | count {d : Descriptor} : r.descriptor? method = some d → ¬ d.InRange received →
    Selection r method received (.error (.paramCount d.required d.fields.length received))
  /-- The method takes that many parameters. -/
  | selected {d : Descriptor} : r.descriptor? method = some d → d.InRange received →
    Selection r method received (.ok d)

theorem selection_select (r : Registry) (method : String) (received : Nat) :
    r.Selection method received (r.select method received) := by
  unfold select lookup
  cases hd : r.descriptor? method with
  | none => exact .unregistered hd
  | some d =>
    by_cases hn : d.InRange received
    · have hcount : d.checkCount received = .ok () := Descriptor.checkCount_eq_ok.2 hn
      show r.Selection method received (d.checkCount received >>= fun _ => .ok d)
      rw [hcount]
      exact .selected hd hn
    · have hcount : d.checkCount received
          = .error (.paramCount d.required d.fields.length received) := if_neg hn
      show r.Selection method received (d.checkCount received >>= fun _ => .ok d)
      rw [hcount]
      exact .count hd hn

theorem select_of_inRange {r : Registry} {method : String} {received : Nat} {d : Descriptor}
    (hd : r.descriptor? method = some d) (hn : d.InRange received) :
    r.select method received = .ok d :=
  bind_eq_ok.2 ⟨d, lookup_eq_ok.2 hd, bind_eq_ok.2 ⟨(), if_pos hn, rfl⟩⟩

theorem select_cases (r : Registry) (method : String) (received : Nat) :
    (∃ e, r.select method received = .error e ∧ e.code ≠ .invalidType)
    ∨ ∃ d, r.descriptor? method = some d ∧ d.InRange received
      ∧ r.select method received = .ok d := by
  have hselected := r.selection_select method received
  generalize r.select method received = selected at hselected
  cases hselected with
  | unregistered _ => exact .inl ⟨_, rfl, fun h => nomatch h⟩
  | count _ _ => exact .inl ⟨_, rfl, fun h => nomatch h⟩
  | selected hd hn => exact .inr ⟨_, hd, hn, rfl⟩

end Registry

/-! ## Requests -/

inductive RequestOutcome (r : Registry) (q : Request) : Except CodecError Command → Prop
  /-- The method is unknown. -/
  | unregistered : r.descriptor? q.method = none →
    RequestOutcome r q (.error (.unregisteredMethod q.method))
  /-- There are too few parameters, or too many. -/
  | count {d : Descriptor} : r.descriptor? q.method = some d → ¬ d.InRange q.params.length →
    RequestOutcome r q (.error (.paramCount d.required d.fields.length q.params.length))
  /-- A parameter is refused. -/
  | refused {d : Descriptor} {i : Nat} {f : Field} {v : Json} {cause : DecodeError} :
    r.descriptor? q.method = some d → d.InRange q.params.length →
    FirstWhere Field.Refuses d.fields q.params i f v → f.schema.decode v = .error cause →
    RequestOutcome r q (.error (.badParam (f.ref i) cause))
  /-- The parameters are a command's. -/
  | command {d : Descriptor} {row : Row d.type.fields} :
    r.descriptor? q.method = some d → d.InRange q.params.length →
    (∀ f v, (f, v) ∈ d.fields.zip q.params → ¬ f.Refuses v) →
    Row.ofSlots 0 d.type.fields (filled d.type.fields q.params) = .ok row →
    RequestOutcome r q (.ok (.ofRow d.type row))

namespace Registry

variable {r : Registry} {q : Request}

theorem unmarshalRequest_eq (r : Registry) (q : Request) :
    (r.unmarshalRequest q).result = r.select q.method q.params.length >>= fun d =>
      Command.ofSlots d.type (fillSlots d.fields d.defaults q.params) := by
  unfold unmarshalRequest receive select
  simp only [Logged.result_bind, Logged.result_quiet, Logged.result_emit, Logged.result_pure,
    bind_assoc]
  rfl

theorem Sound.covered_of_inRange (hr : r.Sound) {d : Descriptor} (hd : d ∈ r.methods)
    {params : List Json} (h : d.InRange params.length) : Covered d.fields params where
  defaults := (hr.descriptors d hd).1.defaults
  required i f hf ho := by
    have hi : i < d.required := ((hr.orderly_of_mem hd).required i f hf).1 ho
    rw [List.getElem?_eq_getElem (Nat.lt_of_lt_of_le hi h.1)]
    exact Option.some_ne_none _

theorem Sound.unmarshalRequest_of_select (hr : r.Sound) {d : Descriptor}
    (h : r.select q.method q.params.length = .ok d) :
    (r.unmarshalRequest q).result = Command.ofSlots d.type (filled d.type.fields q.params) := by
  obtain ⟨e, hlookup, he⟩ := bind_eq_ok.1 h
  obtain ⟨_, _, he⟩ := bind_eq_ok.1 he
  cases he
  rw [unmarshalRequest_eq, h]
  show Command.ofSlots d.type (fillSlots d.fields d.defaults q.params) = _
  rw [hr.defaults_eq (mem_of_lookup hlookup).1]
  rfl

/-- Every request goes one of the four ways. -/
theorem Reachable.requestOutcome_unmarshalRequest (hr : r.Reachable) (q : Request) :
    RequestOutcome r q (r.unmarshalRequest q).result := by
  have hselected := r.selection_select q.method q.params.length
  generalize hselect : r.select q.method q.params.length = selected at hselected
  cases hselected with
  | unregistered hd =>
    rw [unmarshalRequest_eq, hselect]
    exact .unregistered hd
  | count hd hn =>
    rw [unmarshalRequest_eq, hselect]
    exact .count hd hn
  | @selected d hd hn =>
    rw [hr.sound.unmarshalRequest_of_select hselect]
    have hcovered := hr.sound.covered_of_inRange (mem_of_descriptor? hd) hn
    rcases hcovered.read_cases with
      ⟨⟨row, hrow, hc⟩, hall⟩ | ⟨i, f, v, cause, hfirst, hcause, herror⟩
    · rw [hc]
      exact .command hd hn hall hrow
    · rw [herror]
      exact .refused hd hn hfirst hcause

/-- A request fails with an unknown method exactly when its method is not registered; otherwise with
a wrong count exactly when the number of its parameters is out of range; otherwise with a wrong type
exactly when a parameter is refused, and then the first of them is named; otherwise it is read as a
command of the type of its method.  Every default decodes, so none makes a request fail. -/
theorem Reachable.unmarshalRequest_outcome (hr : r.Reachable) (q : Request) :
    let outcome := (r.unmarshalRequest q).result
    (FailsWith outcome .unregisteredMethod ↔ r.has q.method = false)
    ∧ ∀ d, r.descriptor? q.method = some d →
      (FailsWith outcome .numParams ↔ ¬ d.InRange q.params.length)
      ∧ (d.InRange q.params.length →
        (FailsWith outcome .invalidType ↔ ∃ f v, (f, v) ∈ d.fields.zip q.params ∧ f.Refuses v)
        ∧ (∀ e, outcome = .error e →
          ∃ i f v cause, FirstWhere Field.Refuses d.fields q.params i f v
            ∧ f.schema.decode v = .error cause ∧ e = .badParam (f.ref i) cause
            ∧ e.message = "parameter #" ++ toString (i + 1) ++ " '" ++ f.name ++ "'"
              ++ " must be type " ++ f.schema.typeName ++ ": " ++ cause.message)
        ∧ ((∀ f v, (f, v) ∈ d.fields.zip q.params → ¬ f.Refuses v) →
          ∃ c, outcome = .ok c ∧ c.type = d.type))
      ∧ ∀ (i : Nat) (f : Field) (v : Json), d.fields[i]? = some f →
        d.defaults[i]? = some (some v) → f.Reads (some v) := by
  intro outcome
  have hhas : r.has q.method = false ↔ r.descriptor? q.method = none := by
    unfold has
    rw [Option.isSome_eq_false_iff, Option.isNone_iff_eq_none]
  have hdefault : ∀ d, r.descriptor? q.method = some d → ∀ (i : Nat) (f : Field) (v : Json),
      d.fields[i]? = some f → d.defaults[i]? = some (some v) → f.Reads (some v) := by
    intro d hd i f v hf hv
    have hmem : d ∈ r.methods := (mem_of_descriptor? hd)
    obtain ⟨g, hg, _, haccepts⟩ := (hr.sound.orderly_of_mem hmem).default i v hv
    rw [hf] at hg
    cases hg
    exact Field.reads_of_accepts haccepts
  have hout : RequestOutcome r q outcome := hr.requestOutcome_unmarshalRequest q
  generalize outcome = o at hout
  rw [hhas]
  cases hout with
  | unregistered hnone =>
    refine ⟨iff_of_true (failsWith_error.2 rfl) hnone, fun d hd => ?_⟩
    rw [hnone] at hd
    cases hd
  | @count d hd hn =>
    refine ⟨iff_of_false (fun h => nomatch failsWith_error.1 h) (by rw [hd]; nofun),
      fun d' hd' => ?_⟩
    obtain rfl : d = d' := Option.some.inj (hd.symm.trans hd')
    exact ⟨iff_of_true (failsWith_error.2 rfl) hn, fun h => absurd h hn, hdefault d hd⟩
  | @refused d i f v cause hd hn hfirst hcause =>
    refine ⟨iff_of_false (fun h => nomatch failsWith_error.1 h) (by rw [hd]; nofun),
      fun d' hd' => ?_⟩
    obtain rfl : d = d' := Option.some.inj (hd.symm.trans hd')
    refine ⟨iff_of_false (fun h => nomatch failsWith_error.1 h) (not_not_intro hn),
      fun _ => ⟨?_, fun e he => ?_, fun hall => ?_⟩, hdefault d hd⟩
    · exact iff_of_true (failsWith_error.2 rfl) ⟨f, v, hfirst.mem_zip, hfirst.holds⟩
    · cases he
      exact ⟨i, f, v, cause, hfirst, hcause, rfl, rfl⟩
    · exact absurd hfirst.holds (hall f v hfirst.mem_zip)
  | @command d row hd hn hall hrow =>
    refine ⟨iff_of_false not_failsWith_ok (by rw [hd]; nofun), fun d' hd' => ?_⟩
    obtain rfl : d = d' := Option.some.inj (hd.symm.trans hd')
    refine ⟨iff_of_false not_failsWith_ok (not_not_intro hn),
      fun _ => ⟨?_, fun e he => ?_, fun _ => ?_⟩, hdefault d hd⟩
    · refine iff_of_false not_failsWith_ok ?_
      rintro ⟨f, v, hmem, hrefused⟩
      exact hall f v hmem hrefused
    · cases he
    · exact ⟨_, rfl, rfl⟩

/-- The second parameter is no integer; the null before it leaves its field unset. -/
theorem unmarshalRequest_outcome_getNetworkHashPs :
    let t := Catalog.getNetworkHashPs
    let r := empty.add (t.descriptor t.method t.flags)
    let q : Request := ⟨.v1, t.method, [.null, .string "x"], .null⟩
    ∃ cause, (r.unmarshalRequest q).result = .error (.badParam ⟨1, "height", "i32"⟩ cause) := by
  intro t r q
  have hr : r.Reachable := .single (by decide +kernel) (by decide)
  have hd : r.descriptor? q.method = some (t.descriptor t.method t.flags) :=
    hr.sound.descriptor?_of_mem List.mem_cons_self
  have hn : (t.descriptor t.method t.flags).InRange q.params.length := by
    unfold Descriptor.InRange
    decide +kernel
  have hfirst : FirstWhere Field.Refuses t.fields q.params 1 _ (.string "x") :=
    .tail (fun h => h.1 ⟨rfl, rfl⟩) (.head ⟨fun h => (nomatch h.2), rfl⟩)
  obtain ⟨_, hall⟩ := hr.unmarshalRequest_outcome q
  obtain ⟨_, hin, _⟩ := hall _ hd
  obtain ⟨hfails, hnamed, _⟩ := hin hn
  obtain ⟨e, he, _⟩ := hfails.2 ⟨_, _, hfirst.mem_zip, hfirst.holds⟩
  obtain ⟨i, f, v, cause, hfirst', _, hparam, _⟩ := hnamed e he
  obtain ⟨rfl, rfl, rfl⟩ := hfirst.unique hfirst'
  exact ⟨cause, he.trans (congrArg _ hparam)⟩

end Registry

end NodeRpc
