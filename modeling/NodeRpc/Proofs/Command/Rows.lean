import NodeRpc.Proofs.Command.Entries

/-!
# What a command reads back as

The laws of single entries, for rows and for commands whose values are typed.

* `Command.FloatsFinite`, `Command.AmountsSurvive`   what a command must satisfy to be read back;
* `Command.fill`                 what it reads back as;
* `Command.ofSlots_received`     it does;
* `Command.complete_of_ofSlots`  a command that was decoded is filled already.
-/

namespace NodeRpc

/-- A table whose defaults fit and whose values read back. -/
structure Legible (fields : List Field) : Prop where
  defaults : ∀ f ∈ fields, f.DefaultFits
  schemas : ∀ f ∈ fields, f.schema.legible = true

namespace Legible

variable {f : Field} {fs : List Field}

theorem head (h : Legible (f :: fs)) : f.DefaultFits ∧ f.schema.legible = true :=
  ⟨h.defaults f List.mem_cons_self, h.schemas f List.mem_cons_self⟩

theorem tail (h : Legible (f :: fs)) : Legible fs where
  defaults g hg := h.defaults g (List.mem_cons_of_mem _ hg)
  schemas g hg := h.schemas g (List.mem_cons_of_mem _ hg)

end Legible

/-! ## Rows -/

namespace Row

def Every (P : (s : Schema) → s.Val → Prop) : (fs : List Field) → Row fs → Prop
  | [], _ => True
  | f :: fs, row => Entry.Every (f.schema.Every P) f.optional row.1 ∧ Every P fs row.2

def settle : (fs : List Field) → Row fs → Row fs
  | [], _ => ()
  | f :: fs, row => (f.settle row.1, settle fs row.2)

def fill : (fs : List Field) → Row fs → Row fs
  | [], _ => ()
  | f :: fs, row => (f.fill row.1, fill fs row.2)

def Complete : (fs : List Field) → Row fs → Prop
  | [], _ => True
  | f :: fs, row => f.Complete row.1 ∧ Complete fs row.2

theorem ofSlots_eq_ok {index : Nat} {f : Field} {fs : List Field} {given : List (Option Json)}
    {row : Row (f :: fs)} :
    ofSlots index (f :: fs) given = .ok row ↔
      Entry.decode f.schema.decode f.optional (given.headD none) = .ok row.1
        ∧ ofSlots (index + 1) fs given.tail = .ok row.2 := by
  constructor
  · intro h
    obtain ⟨entry, hentry, h⟩ := bind_eq_ok.1 h
    obtain ⟨rest, hrest, h⟩ := bind_eq_ok.1 h
    cases h
    exact ⟨mapError_eq_ok.1 hentry, hrest⟩
  · rintro ⟨hentry, hrest⟩
    exact bind_eq_ok.2 ⟨_, mapError_eq_ok.2 hentry, bind_eq_ok.2 ⟨_, hrest, rfl⟩⟩

theorem writable : (fs : List Field) → (row : Row fs) → Writable fs (slots fs row)
  | [], _ => ⟨rfl, fun _ _ h => (nomatch h)⟩
  | f :: fs, row => by
    refine Writable.cons_iff.2 ⟨fun hreq hnone => ?_, writable fs row.2⟩
    obtain ⟨name, schema, kind, optional, text, usage, description⟩ := f
    cases hreq
    cases hnone

theorem null_not_mem_slots : {fs : List Field} → Legible fs → (row : Row fs) →
    Every Schema.FiniteLeaf fs row → some .null ∉ slots fs row
  | [], _, _, _ => fun h => (nomatch h)
  | f :: fs, ht, row, hf => by
    intro h
    rcases List.mem_cons.1 h with heq | h
    · exact Field.slot_ne_null ht.head.2 hf.1 heq.symm
    · exact null_not_mem_slots ht.tail row.2 hf.2 h

theorem ofSlots_received : {fs : List Field} → Legible fs → (row : Row fs) →
    Every Schema.FiniteLeaf fs row → Every Schema.AmountLeaf fs row → (index : Nat) →
    ofSlots index fs (List.zipWith Field.received fs (slots fs row)) = .ok (fill fs row)
  | [], _, _, _, _, _ => rfl
  | _ :: _, ht, row, hf, ha, index =>
    ofSlots_eq_ok.2 ⟨Field.decode_received ht.head.1 ht.head.2 hf.1 ha.1,
      ofSlots_received ht.tail row.2 hf.2 ha.2 (index + 1)⟩

theorem fill_eq_self : {fs : List Field} → Legible fs → (row : Row fs) → Complete fs row →
    fill fs row = row
  | [], _, _, _ => rfl
  | _ :: _, ht, row, hc =>
    Prod.ext (Field.fill_eq_self ht.head.1 ht.head.2 hc.1) (fill_eq_self ht.tail row.2 hc.2)

theorem complete_of_ofSlots : {fs : List Field} → Legible fs → {given : List (Option Json)} →
    given.length = fs.length → List.zipWith Field.received fs given = given → {index : Nat} →
    {row : Row fs} → ofSlots index fs given = .ok row → Complete fs row
  | [], _, _, _, _, _, _, _ => trivial
  | f :: fs, ht, slot :: given, hlength, hgiven, index, row, h => by
    obtain ⟨hentry, hrest⟩ := ofSlots_eq_ok.1 h
    obtain ⟨hslot, hgiven⟩ := List.cons.inj hgiven
    exact ⟨Field.complete_of_decode ht.head.1 ht.head.2 hslot hentry,
      complete_of_ofSlots ht.tail (Nat.succ.inj hlength) hgiven hrest⟩

theorem floatsFinite_of_ofSlots : {fs : List Field} → Legible fs → {given : List (Option Json)} →
    {index : Nat} → {row : Row fs} → ofSlots index fs given = .ok row →
    Every Schema.FiniteLeaf fs row
  | [], _, _, _, _, _ => trivial
  | _ :: _, ht, _, _, _, h => by
    obtain ⟨hentry, hrest⟩ := ofSlots_eq_ok.1 h
    exact ⟨Entry.every_of_decode
      (fun _ _ => Schema.floatsFinite_of_decode_legible ht.head.2) _ hentry,
      floatsFinite_of_ofSlots ht.tail hrest⟩

theorem amountsSurvive_of_not_pays : {fs : List Field} → (∀ f ∈ fs, f.schema.pays = false) →
    (row : Row fs) → Every Schema.AmountLeaf fs row
  | [], _, _ => trivial
  | f :: _, h, row =>
    ⟨Entry.every_of_forall
      (f.schema.amountsSurvive_of_not_pays (h f List.mem_cons_self)) _ row.1,
      amountsSurvive_of_not_pays (fun g hg => h g (List.mem_cons_of_mem _ hg)) row.2⟩

end Row

/-! ## Commands -/

namespace Representation

variable {fields : List Field}

/-- A property of every leaf of a value.  Nothing is said of values that are kept encoded. -/
def Every (P : (s : Schema) → s.Val → Prop) : (r : Representation) → r.Value fields → Prop
  | typed, row => Row.Every P fields row
  | encoded, _ => True

def settle : (r : Representation) → r.Value fields → r.Value fields
  | typed, row => Row.settle fields row
  | encoded, given => given

def fill : (r : Representation) → r.Value fields → r.Value fields
  | typed, row => Row.fill fields row
  | encoded, given => given

def Complete : (r : Representation) → r.Value fields → Prop
  | typed, row => Row.Complete fields row
  | encoded, _ => True

end Representation

namespace Command

def FloatsFinite (c : Command) : Prop := c.type.representation.Every Schema.FiniteLeaf c.value

def AmountsSurvive (c : Command) : Prop := c.type.representation.Every Schema.AmountLeaf c.value

/-- The command once settled: a fee guard that says nothing becomes a flag. -/
def settle (c : Command) : Command := ⟨c.type, c.type.representation.settle c.value⟩

/-- What a command reads back as: settled, and with its defaults for what is not set. -/
def fill (c : Command) : Command := ⟨c.type, c.type.representation.fill c.value⟩

/-- Whether every optional field that has a default is set, and no fee guard says nothing. -/
def Complete (c : Command) : Prop := c.type.representation.Complete c.value

variable {c : Command}

theorem ofSlots_eq_ok {t : CommandType} {given : List (Option Json)} :
    ofSlots t given = .ok c ↔
      ∃ v, t.representation.ofSlots t.fields given = .ok v ∧ c = ⟨t, v⟩ := by
  constructor
  · intro h
    obtain ⟨v, hv, h⟩ := bind_eq_ok.1 h
    cases h
    exact ⟨v, hv, rfl⟩
  · rintro ⟨v, hv, rfl⟩
    exact bind_eq_ok.2 ⟨v, hv, rfl⟩

theorem type_of_ofSlots {t : CommandType} {given : List (Option Json)}
    (h : ofSlots t given = .ok c) : t = c.type := by
  obtain ⟨v, _, rfl⟩ := ofSlots_eq_ok.1 h
  rfl

theorem writable (ht : c.type.representation = .typed) : Writable c.type.fields c.slots := by
  obtain ⟨⟨method, flags, description, fields, representation⟩, value⟩ := c
  cases ht
  exact Row.writable fields value

theorem null_not_mem_slots (ht : c.type.representation = .typed) (hl : Legible c.type.fields)
    (hf : c.FloatsFinite) : some .null ∉ c.slots := by
  obtain ⟨⟨method, flags, description, fields, representation⟩, value⟩ := c
  cases ht
  exact Row.null_not_mem_slots hl value hf

/-- A command that was sent is decoded filled. -/
theorem ofSlots_received (ht : c.type.representation = .typed) (hl : Legible c.type.fields)
    (hf : c.FloatsFinite) (ha : c.AmountsSurvive) :
    ofSlots c.type (List.zipWith Field.received c.type.fields c.slots) = .ok c.fill := by
  obtain ⟨⟨method, flags, description, fields, representation⟩, value⟩ := c
  cases ht
  exact ofSlots_eq_ok.2 ⟨_, Row.ofSlots_received hl value hf ha 0, rfl⟩

theorem fill_eq_self (hl : Legible c.type.fields) (hc : c.Complete) : c.fill = c := by
  obtain ⟨⟨method, flags, description, fields, representation⟩, value⟩ := c
  cases representation with
  | typed => exact congrArg (Command.mk _) (Row.fill_eq_self hl value hc)
  | encoded => rfl

theorem complete_of_ofSlots {t : CommandType} (hl : Legible t.fields)
    {given : List (Option Json)} (hlength : given.length = t.fields.length)
    (hgiven : List.zipWith Field.received t.fields given = given)
    (h : ofSlots t given = .ok c) : c.Complete := by
  obtain ⟨v, hv, rfl⟩ := ofSlots_eq_ok.1 h
  obtain ⟨method, flags, description, fields, representation⟩ := t
  cases representation with
  | typed => exact Row.complete_of_ofSlots hl hlength hgiven hv
  | encoded => trivial

theorem floatsFinite_of_ofSlots {t : CommandType} (hl : Legible t.fields)
    {given : List (Option Json)} (h : ofSlots t given = .ok c) : c.FloatsFinite := by
  obtain ⟨v, hv, rfl⟩ := ofSlots_eq_ok.1 h
  obtain ⟨method, flags, description, fields, representation⟩ := t
  cases representation with
  | typed => exact Row.floatsFinite_of_ofSlots hl hv
  | encoded => trivial

theorem amountsSurvive_of_not_pays (h : ∀ f ∈ c.type.fields, f.schema.pays = false) :
    c.AmountsSurvive := by
  obtain ⟨⟨method, flags, description, fields, representation⟩, value⟩ := c
  cases representation with
  | typed => exact Row.amountsSurvive_of_not_pays h value
  | encoded => trivial

end Command

end NodeRpc
