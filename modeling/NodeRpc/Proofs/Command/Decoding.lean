import NodeRpc.Proofs.Command.Rows

/-!
# Slots that decode, and the first that does not

Slots are decoded in order, and the first that does not decode is reported.

* `FirstWhere`              the first place of a table where something holds;
* `Row.ofSlots_cases`       a row is made of slots that all decode, or the first other one is named;
* `Command.ofSlots_cases`   the same for the command that a row makes.
-/

namespace NodeRpc

/-! ## The first place -/

/-- `i` is the first place where what is given for a field is as `P` says: there it is `b`, for the
field `f`. -/
structure FirstWhere {β : Type} (P : Field → β → Prop) (fields : List Field) (given : List β)
    (i : Nat) (f : Field) (b : β) : Prop where
  field : fields[i]? = some f
  here : given[i]? = some b
  holds : P f b
  before : ∀ (j : Nat) (g : Field) (c : β), j < i → fields[j]? = some g → given[j]? = some c →
    ¬ P g c

theorem mem_zip_of_getElem? {β : Type} {fields : List Field} {given : List β} {i : Nat} {f : Field}
    {b : β} (hf : fields[i]? = some f) (hb : given[i]? = some b) : (f, b) ∈ fields.zip given :=
  List.mem_of_getElem? (List.getElem?_zip_eq_some.2 ⟨hf, hb⟩)

namespace FirstWhere

variable {β : Type} {P : Field → β → Prop} {fields : List Field} {given : List β} {i j : Nat}
  {f g : Field} {b c : β}

theorem head (h : P f b) : FirstWhere P (f :: fields) (b :: given) 0 f b where
  field := rfl
  here := rfl
  holds := h
  before _ _ _ hlt := absurd hlt (Nat.not_lt_zero _)

theorem tail (hf : ¬ P f b) (h : FirstWhere P fields given i g c) :
    FirstWhere P (f :: fields) (b :: given) (i + 1) g c where
  field := h.field
  here := h.here
  holds := h.holds
  before j k d hlt hk hd := by
    cases j with
    | zero =>
      have hfk : f = k := Option.some.inj hk
      have hbd : b = d := Option.some.inj hd
      rw [← hfk, ← hbd]
      exact hf
    | succ j => exact h.before j k d (Nat.lt_of_succ_lt_succ hlt) hk hd

theorem unique (h : FirstWhere P fields given i f b) (h' : FirstWhere P fields given j g c) :
    i = j ∧ f = g ∧ b = c := by
  have hij : i = j := by
    rcases Nat.lt_trichotomy i j with hlt | heq | hgt
    · exact absurd h.holds (h'.before i f b hlt h.field h.here)
    · exact heq
    · exact absurd h'.holds (h.before j g c hgt h'.field h'.here)
  subst hij
  exact ⟨rfl, Option.some.inj (h.field.symm.trans h'.field),
    Option.some.inj (h.here.symm.trans h'.here)⟩

theorem mem_zip (h : FirstWhere P fields given i f b) : (f, b) ∈ fields.zip given :=
  mem_zip_of_getElem? h.field h.here

theorem congr {Q : Field → β → Prop} (h : FirstWhere P fields given i f b)
    (hPQ : ∀ g c, (g, c) ∈ fields.zip given → (P g c ↔ Q g c)) :
    FirstWhere Q fields given i f b where
  field := h.field
  here := h.here
  holds := (hPQ f b h.mem_zip).1 h.holds
  before j g c hlt hg hc hq :=
    h.before j g c hlt hg hc ((hPQ g c (mem_zip_of_getElem? hg hc)).2 hq)

end FirstWhere

/-! ## Rows -/

def Field.read (f : Field) (slot : Option Json) : Decoded (Entry f.optional f.schema.Val) :=
  Entry.decode f.schema.decode f.optional slot

def Field.Reads (f : Field) (slot : Option Json) : Prop := ∃ e, f.read slot = .ok e

namespace Field

variable {f : Field} {v : Json}

theorem reads_unset (ho : f.optional = true) : f.Reads none ∧ f.Reads (some .null) := by
  obtain ⟨name, schema, kind, optional, text, usage, description⟩ := f
  cases ho
  exact ⟨⟨none, rfl⟩, ⟨none, rfl⟩⟩

theorem reads_of_accepts (h : f.accepts v = true) : f.Reads (some v) := by
  obtain ⟨a, ha⟩ := isOk_iff.1 h
  obtain ⟨name, schema, kind, optional, text, usage, description⟩ := f
  cases optional with
  | false => exact ⟨a, ha⟩
  | true =>
    cases hv : v.isNull with
    | true =>
      rw [Json.isNull_iff.1 hv]
      exact ⟨none, rfl⟩
    | false => exact ⟨some a, Entry.decode_some hv ha⟩

end Field

/-- A row is made of slots that all decode, or the first that does not is named. -/
theorem Row.ofSlots_cases {fields : List Field} {given : List (Option Json)}
    (hlength : given.length = fields.length) (index : Nat) :
    ((∃ row, ofSlots index fields given = .ok row)
      ∧ ∀ f slot, (f, slot) ∈ fields.zip given → f.Reads slot)
    ∨ ∃ i f slot cause, FirstWhere (fun f slot => ¬ f.Reads slot) fields given i f slot
      ∧ f.read slot = .error cause
      ∧ ofSlots index fields given = .error (.badParam (f.ref (index + i)) cause) := by
  induction fields generalizing given index with
  | nil => exact .inl ⟨⟨(), rfl⟩, fun _ _ h => (nomatch h)⟩
  | cons f fields ih =>
    cases given with
    | nil => cases hlength
    | cons slot given =>
      cases hslot : f.read slot with
      | error cause =>
        have hnot : ¬ f.Reads slot := by
          rintro ⟨e, he⟩
          rw [hslot] at he
          cases he
        refine .inr ⟨0, f, slot, cause, .head hnot, hslot, ?_⟩
        show ((f.read slot).mapError (CodecError.badParam (f.ref index)) >>= _) = _
        rw [hslot]
        rfl
      | ok e =>
        have hreads : f.Reads slot := ⟨e, hslot⟩
        rcases ih (Nat.succ.inj hlength) (index + 1) with
          ⟨⟨row, hrow⟩, hall⟩ | ⟨i, g, s, cause, hfirst, hcause, herror⟩
        · refine .inl ⟨⟨(e, row), ofSlots_eq_ok.2 ⟨hslot, hrow⟩⟩, ?_⟩
          intro g s hmem
          rcases List.mem_cons.1 hmem with heq | hmem
          · cases heq
            exact hreads
          · exact hall g s hmem
        · refine .inr ⟨i + 1, g, s, cause, hfirst.tail (fun hn => hn hreads), hcause, ?_⟩
          show ((f.read slot).mapError (CodecError.badParam (f.ref index)) >>= fun entry =>
            ofSlots (index + 1) fields given >>= fun rest => pure (entry, rest)) = _
          rw [hslot, herror, Nat.add_assoc, Nat.add_comm 1 i]
          rfl

/-! ## Commands -/

def Representation.ofRow {fields : List Field} : (r : Representation) → Row fields → r.Value fields
  | typed, row => row
  | encoded, row => Row.slots fields row

namespace Command

def ofRow (t : CommandType) (row : Row t.fields) : Command := ⟨t, t.representation.ofRow row⟩

theorem slots_ofRow (t : CommandType) (row : Row t.fields) :
    (ofRow t row).slots = Row.slots t.fields row := by
  obtain ⟨method, flags, description, fields, representation⟩ := t
  cases representation <;> rfl

theorem ofSlots_eq_map (t : CommandType) (given : List (Option Json)) :
    ofSlots t given = (Row.ofSlots 0 t.fields given).map (ofRow t) := by
  obtain ⟨method, flags, description, fields, representation⟩ := t
  cases representation with
  | typed =>
    show (Row.ofSlots 0 fields given >>= fun row => Except.ok _) = _
    cases Row.ofSlots 0 fields given <;> rfl
  | encoded =>
    show ((Row.ofSlots 0 fields given >>= fun row => Except.ok _) >>= fun v => Except.ok _) = _
    cases Row.ofSlots 0 fields given <;> rfl

theorem exists_row_of_ofSlots {t : CommandType} {given : List (Option Json)} {c : Command}
    (h : ofSlots t given = .ok c) :
    ∃ row, Row.ofSlots 0 t.fields given = .ok row ∧ c = ofRow t row := by
  rw [ofSlots_eq_map] at h
  obtain ⟨row, hrow, hc⟩ := map_eq_ok.1 h
  exact ⟨row, hrow, hc.symm⟩

theorem writable_of_ofSlots {t : CommandType} {given : List (Option Json)} {c : Command}
    (h : ofSlots t given = .ok c) : Writable c.type.fields c.slots := by
  obtain ⟨row, _, rfl⟩ := exists_row_of_ofSlots h
  rw [slots_ofRow]
  exact Row.writable t.fields row

theorem ofSlots_cases {t : CommandType} {given : List (Option Json)}
    (hlength : given.length = t.fields.length) :
    ((∃ row, Row.ofSlots 0 t.fields given = .ok row ∧ ofSlots t given = .ok (ofRow t row))
      ∧ ∀ f slot, (f, slot) ∈ t.fields.zip given → f.Reads slot)
    ∨ ∃ i f slot cause, FirstWhere (fun f slot => ¬ f.Reads slot) t.fields given i f slot
      ∧ f.read slot = .error cause ∧ ofSlots t given = .error (.badParam (f.ref i) cause) := by
  rw [ofSlots_eq_map]
  rcases Row.ofSlots_cases hlength 0 with
    ⟨⟨row, hrow⟩, hall⟩ | ⟨i, f, slot, cause, hfirst, hcause, herror⟩
  · rw [hrow]
    exact .inl ⟨⟨row, rfl, rfl⟩, hall⟩
  · rw [herror, Nat.zero_add]
    exact .inr ⟨i, f, slot, cause, hfirst, hcause, rfl⟩

end Command

end NodeRpc
