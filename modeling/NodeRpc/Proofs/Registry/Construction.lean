import NodeRpc.Proofs.Command.Coercion
import NodeRpc.Proofs.Registry.Refusals

/-!
# Commands from arguments and from requests

A command can be built from loosely typed arguments, and read from a request whose parameters they
are.  What is read is built too.  The two ways part only at texts: an argument may be the text of
other JSON, or the word `null`.  On all other arguments they fail together, and what is read is what
was built, with its defaults.

* `Row.withDefaults`                      a row with its defaults for what is not set;
* `Field.Literal`                         the arguments that stand for themselves;
* `Covered.literal_cases`                 these make the same command in both ways, or none;
* `Reachable.newCommand_unmarshalRequest` the two ways agree.
-/

namespace NodeRpc

/-! ## Defaults -/

namespace Field

variable {f : Field} {slot : Option Json} {e : Entry f.optional f.schema.Val}

/-- What the default of a field stands for: nothing if there is none, or if it is null. -/
def defaultEntry? (f : Field) : Option f.schema.Val :=
  (Entry.decode f.schema.decode true f.default?).toOption.join

def withDefault (f : Field) (e : Entry f.optional f.schema.Val) : Entry f.optional f.schema.Val :=
  Entry.orDefault f.defaultEntry? f.optional e

theorem decode_default_eq (hf : f.DefaultFits) :
    Entry.decode f.schema.decode true f.default? = .ok f.defaultEntry? := by
  have hdecodes : ∃ e, Entry.decode f.schema.decode true f.default? = .ok e := by
    cases hdefault : f.default? with
    | none => exact ⟨none, rfl⟩
    | some v =>
      obtain ⟨ho, haccepts⟩ := hf.of_default hdefault
      have hreads : f.Reads (some v) := reads_of_accepts haccepts
      unfold Reads read at hreads
      rw [ho] at hreads
      exact hreads
  obtain ⟨e, he⟩ := hdecodes
  unfold defaultEntry?
  rw [he]
  rfl

/-- What the decoder is handed for a slot stands for the entry of the slot, or for the default. -/
theorem read_received (hf : f.DefaultFits) (h : f.read slot = .ok e) :
    f.read (f.received slot) = .ok (f.withDefault e) := by
  have hdefault := decode_default_eq hf
  obtain ⟨name, schema, kind, optional, text, usage, description⟩ := f
  cases optional with
  | false =>
    rw [received_of_required rfl]
    exact h
  | true =>
    by_cases hunset : slot = none ∨ slot = some .null
    · have he : e = none := by
        rcases hunset with rfl | rfl
        · cases h
          rfl
        · cases h
          rfl
      rw [he]
      exact (congrArg _ (if_pos ⟨rfl, hunset⟩)).trans hdefault
    · cases e with
      | none => exact absurd (Entry.decode_eq_none h) hunset
      | some a => exact (congrArg _ (if_neg fun hu => hunset hu.2)).trans h

end Field

namespace Row

def withDefaults : (fs : List Field) → Row fs → Row fs
  | [], _ => ()
  | f :: fs, row => (f.withDefault row.1, withDefaults fs row.2)

theorem ofSlots_withDefaults : {fs : List Field} → (∀ f ∈ fs, f.DefaultFits) →
    {given : List (Option Json)} → given.length = fs.length → {index : Nat} → {row : Row fs} →
    ofSlots index fs given = .ok row →
    ofSlots index fs (List.zipWith Field.received fs given) = .ok (withDefaults fs row)
  | [], _, _, _, _, _, _ => rfl
  | _ :: _, hfits, _ :: _, hlength, _, _, h => by
    obtain ⟨hf, hfits⟩ := List.forall_mem_cons.1 hfits
    obtain ⟨hentry, hrest⟩ := ofSlots_eq_ok.1 h
    exact ofSlots_eq_ok.2 ⟨Field.read_received hf hentry,
      ofSlots_withDefaults hfits (Nat.succ.inj hlength) hrest⟩

end Row

/-! ## One argument -/

namespace Field

variable {f : Field} {v : Json}

/-- Whether an argument stands for itself: it is no text, or it is one for a field of texts, other
than the word that leaves an optional field unset. -/
structure Literal (f : Field) (v : Json) : Prop where
  kind : ∀ text, v = .string text → f.kind = .string
  word : f.optional = true → v ≠ .string "null"

theorem Literal.reread?_eq_none (h : f.Literal v) : f.reread? v = none := by
  by_cases htext : ∃ text, v = .string text
  · obtain ⟨text, rfl⟩ := htext
    exact if_pos (h.kind text rfl)
  · exact Field.reread?_eq_none fun text ht => htext ⟨text, ht⟩

theorem Literal.filledBy_of_not_unset (h : f.Literal v)
    (hnull : ¬ (f.optional = true ∧ v = .null)) : f.FilledBy v := by
  intro ho
  refine leavesUnset_eq_false ?_ (h.word ho)
  rw [← Bool.not_eq_true]
  exact fun hv => hnull ⟨ho, Json.isNull_iff.1 hv⟩

theorem Rejects.refuses (h : f.Rejects v) : f.Refuses v := by
  refine ⟨?_, h.accepts⟩
  rintro ⟨ho, rfl⟩
  cases h.filledBy ho

theorem Literal.rejects_iff (h : f.Literal v) : f.Rejects v ↔ f.Refuses v :=
  ⟨Rejects.refuses, fun hr => ⟨h.filledBy_of_not_unset hr.1, h.reread?_eq_none, hr.2⟩⟩

/-- What stands for itself is handed to the decoder alike, before it fills a slot and after. -/
theorem Literal.received_given (h : f.Literal v) :
    f.received (f.given (some v)) = f.received (some v) := by
  by_cases hnull : f.optional = true ∧ v = .null
  · obtain ⟨ho, rfl⟩ := hnull
    have hgiven : f.given (some .null) = none := by
      rw [given, ho]
      rfl
    rw [hgiven, received_none ho]
    exact (if_pos ⟨ho, .inr rfl⟩).symm
  · rw [given, if_neg (h.filledBy_of_not_unset hnull).not_unset, h.reread?_eq_none]
    rfl

end Field

/-! ## All arguments -/

section Arguments

variable {fields : List Field} {args : List Json}

abbrev given (fields : List Field) (args : List Json) : List (Option Json) :=
  fields.mapIdx fun i f => f.given args[i]?

theorem Covered.reads_given (h : Covered fields args)
    (hall : ∀ f v, (f, v) ∈ fields.zip args → ¬ f.Rejects v) {i : Nat} {f : Field}
    {slot : Option Json} (hf : fields[i]? = some f) (hslot : (given fields args)[i]? = some slot) :
    f.Reads slot := by
  rw [List.getElem?_mapIdx, hf, Option.map_some, Option.some_inj] at hslot
  rw [← hslot]
  exact Field.reads_given (h.required i f hf) fun v hv => hall f v (mem_zip_of_getElem? hf hv)

/-- Parameters that stand for themselves fill what is handed to the decoder for the slots that they
fill as arguments. -/
theorem filled_eq (hfits : ∀ f ∈ fields, f.DefaultFits)
    (hargs : ∀ f v, (f, v) ∈ fields.zip args → f.Literal v) :
    filled fields args = List.zipWith Field.received fields (given fields args) := by
  rw [filled, fillSlots_eq_mapIdx hfits]
  refine List.ext_getElem? fun i => ?_
  rw [List.getElem?_mapIdx, List.getElem?_zipWith, List.getElem?_mapIdx]
  cases hf : fields[i]? with
  | none => rfl
  | some f =>
    show some (f.received args[i]?) = some (f.received (f.given args[i]?))
    cases hv : args[i]? with
    | none => rfl
    | some v => rw [(hargs f v (mem_zip_of_getElem? hf hv)).received_given]

theorem Covered.build_cases {t : CommandType} (h : Covered t.fields args) :
    ((∃ row, Row.ofSlots 0 t.fields (given t.fields args) = .ok row
        ∧ (coerceArgs 0 t.fields args >>= Command.ofSlots t) = .ok (.ofRow t row))
      ∧ ∀ f v, (f, v) ∈ t.fields.zip args → ¬ f.Rejects v)
    ∨ ∃ i f v, FirstWhere Field.Rejects t.fields args i f v
      ∧ (coerceArgs 0 t.fields args >>= Command.ofSlots t)
        = .error (.badArgument (f.ref i) v.kind) := by
  rcases coerceArgs_cases t.fields args 0 with ⟨hgiven, hall⟩ | ⟨i, f, v, hfirst, herror⟩
  · rw [hgiven]
    rcases Command.ofSlots_cases (t := t) (List.length_mapIdx (l := t.fields)) with
      ⟨hrow, _⟩ | ⟨i, f, slot, cause, hfirst, _, _⟩
    · exact .inl ⟨hrow, hall⟩
    · exact absurd (h.reads_given hall hfirst.field hfirst.here) hfirst.holds
  · rw [herror, Nat.zero_add]
    exact .inr ⟨i, f, v, hfirst, rfl⟩

/-- What is read from covered parameters is built from them too. -/
theorem Covered.built_of_read {t : CommandType} {c : Command} (h : Covered t.fields args)
    (hc : Command.ofSlots t (filled t.fields args) = .ok c) :
    ∃ b, (coerceArgs 0 t.fields args >>= Command.ofSlots t) = .ok b := by
  rcases h.build_cases with ⟨⟨row, _, hb⟩, _⟩ | ⟨i, f, v, hfirst, _⟩
  · exact ⟨_, hb⟩
  rcases h.read_cases with ⟨_, hall⟩ | ⟨_, _, _, _, _, _, herror⟩
  · exact absurd hfirst.holds.refuses (hall f v hfirst.mem_zip)
  · rw [hc] at herror
    cases herror

/-- Covered arguments that stand for themselves make a command in both ways, the same but for its
defaults, or are blamed at the same place. -/
theorem Covered.literal_cases {t : CommandType} (h : Covered t.fields args)
    (hargs : ∀ f v, (f, v) ∈ t.fields.zip args → f.Literal v) :
    (∃ row, (coerceArgs 0 t.fields args >>= Command.ofSlots t) = .ok (.ofRow t row)
      ∧ Command.ofSlots t (filled t.fields args) = .ok (.ofRow t (Row.withDefaults t.fields row)))
    ∨ ∃ param kind cause,
      (coerceArgs 0 t.fields args >>= Command.ofSlots t) = .error (.badArgument param kind)
      ∧ Command.ofSlots t (filled t.fields args) = .error (.badParam param cause) := by
  have hagree := fun f v hmem => (hargs f v hmem).rejects_iff
  rcases h.build_cases with ⟨⟨row, hrow, hb⟩, _⟩ | ⟨i, f, v, hfirst, hb⟩
  · have hfilled := Row.ofSlots_withDefaults h.defaults List.length_mapIdx hrow
    rw [← filled_eq h.defaults hargs] at hfilled
    refine .inl ⟨row, hb, ?_⟩
    rw [Command.ofSlots_eq_map, hfilled]
    rfl
  · rcases h.read_cases with ⟨_, hall⟩ | ⟨j, g, w, cause, hrefused, _, hc⟩
    · exact absurd hfirst.holds.refuses (hall f v hfirst.mem_zip)
    · obtain ⟨rfl, rfl, rfl⟩ := (hfirst.congr hagree).unique hrefused
      exact .inr ⟨f.ref i, v.kind, cause, hb, hc⟩

end Arguments

/-! ## Construction -/

namespace Registry

variable {r : Registry}

theorem newCommand_eq (r : Registry) (method : String) (args : List Json) :
    (r.newCommand method args).result = r.select method args.length >>= fun d =>
      coerceArgs 0 d.fields args >>= Command.ofSlots d.type := by
  unfold newCommand select
  simp only [Logged.result_bind, Logged.result_quiet, Logged.result_emit, bind_assoc]
  rfl

/-- Whatever is read from a request is built from its parameters as arguments.  If all of them stand
for themselves, then what is built is read; the two ways blame the same parameter; and what is read
is what was built, with its defaults for what is not set. -/
theorem Reachable.newCommand_unmarshalRequest (hr : r.Reachable) (version : Version) (id : Id)
    (method : String) (args : List Json) :
    let built := (r.newCommand method args).result
    let read := (r.unmarshalRequest ⟨version, method, args, id⟩).result
    ((∃ c, read = .ok c) → ∃ b, built = .ok b)
    ∧ ((∀ d, r.descriptor? method = some d → ∀ f v, (f, v) ∈ d.fields.zip args → f.Literal v) →
      ((∃ b, built = .ok b) ↔ ∃ c, read = .ok c)
      ∧ (FailsWith built .invalidType ∨ FailsWith read .invalidType →
        ∃ param kind cause, built = .error (.badArgument param kind)
          ∧ read = .error (.badParam param cause))
      ∧ ∀ b c, built = .ok b → read = .ok c →
        ∃ d row, r.descriptor? method = some d ∧ b = .ofRow d.type row
          ∧ c = .ofRow d.type (Row.withDefaults d.type.fields row)) := by
  intro built read
  rcases r.select_cases method args.length with ⟨e, he, hcode⟩ | ⟨d, hd, hn, hselect⟩
  · have hbuilt : built = .error e := by
      show (r.newCommand method args).result = _
      rw [newCommand_eq, he]
      rfl
    have hread : read = .error e := by
      show (r.unmarshalRequest _).result = _
      rw [unmarshalRequest_eq, he]
      rfl
    rw [hbuilt, hread]
    refine ⟨fun ⟨c, hc⟩ => (nomatch hc), fun _ => ⟨⟨fun ⟨b, hb⟩ => (nomatch hb),
      fun ⟨c, hc⟩ => (nomatch hc)⟩, fun hfails => ?_, fun b c hb => (nomatch hb)⟩⟩
    rw [or_self, failsWith_error] at hfails
    exact absurd hfails hcode
  · have hcovered := hr.sound.covered_of_inRange (mem_of_descriptor? hd) hn
    have hbuilt : built = coerceArgs 0 d.type.fields args >>= Command.ofSlots d.type := by
      show (r.newCommand method args).result = _
      rw [newCommand_eq, hselect]
      rfl
    have hread : read = Command.ofSlots d.type (filled d.type.fields args) :=
      hr.sound.unmarshalRequest_of_select hselect
    refine ⟨?_, fun hargs => ?_⟩
    · rintro ⟨c, hc⟩
      rw [hbuilt]
      exact hcovered.built_of_read (hread ▸ hc)
    rcases hcovered.literal_cases (hargs d hd) with
      ⟨row, hb, hc⟩ | ⟨param, kind, cause, hb, hc⟩
    · rw [hbuilt, hread, hb, hc]
      refine ⟨iff_of_true ⟨_, rfl⟩ ⟨_, rfl⟩, fun hfails => ?_, ?_⟩
      · rcases hfails with h | h
        · exact absurd h not_failsWith_ok
        · exact absurd h not_failsWith_ok
      · rintro b c hb hc
        cases hb
        cases hc
        exact ⟨d, row, hd, rfl, rfl⟩
    · rw [hbuilt, hread, hb, hc]
      refine ⟨⟨fun ⟨b, h⟩ => (nomatch h), fun ⟨c, h⟩ => (nomatch h)⟩,
        fun _ => ⟨param, kind, cause, rfl, rfl⟩, fun b c h => (nomatch h)⟩

/-- A null leaves the field before unset; only the request gives it its default. -/
theorem newCommand_unmarshalRequest_getNetworkHashPs :
    let t := Catalog.getNetworkHashPs
    let r := empty.add (t.descriptor t.method t.flags)
    let args : List Json := [.null, .number (.integer 5 (by decide) (by decide))]
    let c : Command := ⟨t, (some ⟨120, by decide, by decide⟩, some ⟨5, by decide, by decide⟩, ())⟩
    (r.unmarshalRequest ⟨.v1, t.method, args, .null⟩).result = .ok c
    ∧ ∃ row, (r.newCommand t.method args).result = .ok (.ofRow t row)
      ∧ c = .ofRow t (Row.withDefaults t.fields row) := by
  intro t r args c
  have hr : r.Reachable := .single (by decide +kernel) (by decide)
  have hd : r.descriptor? t.method = some (t.descriptor t.method t.flags) :=
    hr.sound.descriptor?_of_mem List.mem_cons_self
  have hread : (r.unmarshalRequest ⟨.v1, t.method, args, .null⟩).result = .ok c := by
    decide +kernel
  have htext : ∀ v ∈ args, ∀ text, v ≠ .string text := by
    intro v hv text
    rcases List.mem_cons.1 hv with rfl | hv
    · exact fun h => nomatch h
    · rw [List.mem_singleton.1 hv]
      exact fun h => nomatch h
  obtain ⟨hbuilds, hall⟩ := hr.newCommand_unmarshalRequest .v1 .null t.method args
  obtain ⟨b, hb⟩ := hbuilds ⟨c, hread⟩
  obtain ⟨_, _, hsame⟩ := hall fun d _ f v hmem =>
    ⟨fun text ht => absurd ht (htext v (List.of_mem_zip hmem).2 text),
      fun _ => htext v (List.of_mem_zip hmem).2 "null"⟩
  obtain ⟨d, row, hd', rfl, hc⟩ := hsame b c hb hread
  obtain rfl : t.descriptor t.method t.flags = d := Option.some.inj (hd.symm.trans hd')
  exact ⟨hread, row, hb, hc⟩

end Registry

end NodeRpc
