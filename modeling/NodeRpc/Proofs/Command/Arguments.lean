import NodeRpc.Proofs.Command.Rows
import NodeRpc.Proofs.Json.Strings

/-!
# Slots given as arguments

`newCommand` reads loosely typed arguments.  The arguments here are the slots of a command, with null
for an absent one.

* `Field.Misread`              the slots that are taken for something else;
* `Field.steady`               the fields for which there are no others;
* `Field.builds_of_legible`    the entry that the slot of an entry makes as an argument;
* `Command.coerceArgs_slots`   the command that the slots of a command make.
-/

namespace NodeRpc

/-- Slots as arguments: null for an absent one. -/
def arguments (slots : List (Option Json)) : List Json := slots.map fun slot => slot.getD .null

namespace Schema

/-- Whether no value of a schema is written as a text. -/
def wordless : Schema → Bool
  | .any => false
  | .string => false
  | .choice _ _ _ => false
  | .union .hashOrHeight => false
  | .union .timestamp => false
  | .union .scriptPubKey => false
  | .union .id => false
  | _ => true

theorem encode_ne_string {s : Schema} (hs : s.wordless = true) (v : s.Val) (text : String) :
    s.encode v ≠ .string text := by
  cases s with
  | any => cases hs
  | string => cases hs
  | choice name first others => cases hs
  | boolean => intro h; cases h
  | integer w => intro h; cases h
  | float f =>
    show Json.ofDouble (Binary.toDouble f v) ≠ .string text
    cases Binary.toDouble f v <;> (intro h; cases h)
  | list element => intro h; cases h
  | map value => intro h; cases h
  | record name members => intro h; cases h
  | union u =>
    cases u with
    | descriptorRange => cases (v : DescriptorRange) <;> (intro h; cases h)
    | feeGuard => cases (v : FeeGuard) <;> (intro h; cases h)
    | templateLimit member => cases (v : TemplateLimit) <;> (intro h; cases h)
    | psbtOutput => cases (v : PsbtOutput) <;> (intro h; cases h)
    | hashOrHeight => cases hs
    | timestamp => cases hs
    | scriptPubKey => cases hs
    | id => cases hs

end Schema

/-! ## One argument -/

theorem leavesUnset_eq_false {v : Json} (hnull : v.isNull = false) (hword : v ≠ .string "null") :
    leavesUnset v = false := by
  cases v with
  | null => cases hnull
  | string text => exact decide_eq_false fun h => hword (congrArg Json.string h)
  | bool b => rfl
  | number n => rfl
  | array items => rfl
  | object members => rfl

namespace Field

variable {f : Field} {index : Nat} {v w : Json}

theorem reread?_eq_none (h : ∀ text, v ≠ .string text) : f.reread? v = none := by
  cases v with
  | string text => exact absurd rfl (h text)
  | null => rfl
  | bool b => rfl
  | number n => rfl
  | array items => rfl
  | object members => rfl

theorem reread?_eq_some {text : String} (hkind : f.kind ≠ .string) :
    f.reread? (.string text) = some w ↔ Json.ofText? text = some w ∧ f.accepts w = true := by
  show (if f.kind = .string then none else (Json.ofText? text).filter f.accepts) = some w ↔ _
  rw [if_neg hkind]
  exact Option.filter_eq_some_iff

theorem coerce_unset (ho : f.optional = true) (hv : leavesUnset v = true) :
    f.coerce index v = .ok none := by
  unfold coerce
  rw [ho, hv]
  rfl

def FilledBy (f : Field) (v : Json) : Prop := f.optional = true → leavesUnset v = false

theorem FilledBy.not_unset (h : f.FilledBy v) : ¬ (f.optional && leavesUnset v) = true := by
  rw [Bool.and_eq_true]
  rintro ⟨ho, hunset⟩
  rw [h ho] at hunset
  cases hunset

theorem coerce_reread (hv : f.FilledBy v) (hw : f.reread? v = some w) :
    f.coerce index v = .ok (some w) := by
  unfold coerce
  rw [if_neg hv.not_unset, hw]

theorem coerce_accepted (hv : f.FilledBy v) (hw : f.reread? v = none)
    (haccepts : f.accepts v = true) : f.coerce index v = .ok (some v) := by
  unfold coerce
  rw [if_neg hv.not_unset, hw]
  exact if_pos haccepts

/-- The slots that are taken for something else as arguments: the word `null` for an optional text,
and the hash of a block that reads as JSON of a block. -/
inductive Misread (f : Field) : Option Json → Prop
  | word : f.optional = true → f.schema = .string → Misread f (some (.string "null"))
  | block {text : String} {j : Json} : f.schema = .union .hashOrHeight → Json.ofText? text = some j →
    (j.int64? ≠ none ∨ ∃ word, j = .string word) → Misread f (some (.string text))

def steady (f : Field) : Bool :=
  decide (f.kind = f.schema.kind) && match f.schema with
    | .string => true
    | .choice _ first others => (first :: others).all fun word =>
        !(f.optional && word = "null") && (f.reread? (.string word)).isNone
    | .union .hashOrHeight => !f.optional
    | s => s.wordless

/-- What becomes of the slot of a value as an argument: it is taken as it is, or it is misread, as
nothing or as a value that is written otherwise. -/
inductive Coerced (f : Field) (index : Nat) (v : Json) : Prop
  | same : f.coerce index v = .ok (some v) → ¬ f.Misread (some v) → Coerced f index v
  | unset : f.optional = true → f.coerce index v = .ok none → f.Misread (some v) →
    Coerced f index v
  | other {w : Json} {b : f.schema.Val} : f.coerce index v = .ok (some w) → w.isNull = false →
    f.schema.decode w = .ok b → f.schema.encode b ≠ v → f.Misread (some v) → Coerced f index v

theorem Misread.exists_text (h : f.Misread (some v)) : ∃ text, v = .string text := by
  cases h with
  | word => exact ⟨_, rfl⟩
  | block => exact ⟨_, rfl⟩

theorem misread_string {text : String} : f.Misread (some (.string text)) ↔
    (f.schema = .string ∧ f.optional = true ∧ text = "null") ∨
      f.schema = .union .hashOrHeight ∧ ∃ j, Json.ofText? text = some j ∧
        (j.int64? ≠ none ∨ ∃ word, j = .string word) := by
  constructor
  · intro h
    cases h with
    | word ho hs => exact .inl ⟨hs, ho, rfl⟩
    | block hs hj hblock => exact .inr ⟨hs, _, hj, hblock⟩
  · rintro (⟨hs, ho, rfl⟩ | ⟨hs, j, hj, hblock⟩)
    · exact .word ho hs
    · exact .block hs hj hblock

theorem accepts_block (hs : f.schema = .union .hashOrHeight) :
    f.accepts v = true ↔ v.int64? ≠ none ∨ ∃ word, v = .string word := by
  rw [accepts, hs]
  refine isOk_iff.trans ?_
  constructor
  · rintro ⟨b, hb⟩
    rcases HashOrHeight.decode_eq_ok.1 hb with ⟨n, hn, _⟩ | ⟨word, hword, _⟩
    · exact .inl (by rw [hn]; exact Option.some_ne_none n)
    · exact .inr ⟨word, hword⟩
  · rintro (hn | ⟨word, hword⟩)
    · obtain ⟨n, hn⟩ := Option.ne_none_iff_exists'.1 hn
      exact ⟨_, HashOrHeight.decode_eq_ok.2 (.inl ⟨n, hn, rfl⟩)⟩
    · exact ⟨_, HashOrHeight.decode_eq_ok.2 (.inr ⟨word, hword, rfl⟩)⟩

theorem coerced_of_ne_string (hnull : v.isNull = false) (haccepts : f.accepts v = true)
    (hv : ∀ text, v ≠ .string text) : f.Coerced index v := by
  refine .same (coerce_accepted (fun _ => leavesUnset_eq_false hnull (hv _))
    (reread?_eq_none hv) haccepts) fun h => ?_
  obtain ⟨text, rfl⟩ := h.exists_text
  exact hv text rfl

theorem coerced_string {text : String} (hs : f.schema = .string) (hkind : f.kind = .string)
    (haccepts : f.accepts (.string text) = true) : f.Coerced index (.string text) := by
  have hread : f.reread? (.string text) = none := if_pos hkind
  by_cases h : f.optional = true ∧ text = "null"
  · obtain ⟨ho, rfl⟩ := h
    exact .unset ho (coerce_unset ho rfl) (.word ho hs)
  · have hset : f.FilledBy (.string text) := fun ho => decide_eq_false fun ht => h ⟨ho, ht⟩
    refine .same (coerce_accepted hset hread haccepts) fun hm => ?_
    rcases misread_string.1 hm with ⟨_, hword⟩ | ⟨hb, _⟩
    · exact h hword
    · rw [hs] at hb
      cases hb

/-- The hash of a block is taken as it is, unless it reads as JSON of a block. -/
theorem coerced_block {text : String} (hs : f.schema = .union .hashOrHeight)
    (hkind : f.kind ≠ .string) (ho : f.optional = false) : f.Coerced index (.string text) := by
  have hset : f.FilledBy (.string text) := by
    intro hopt
    rw [ho] at hopt
    cases hopt
  cases hread : f.reread? (.string text) with
  | none =>
    have haccepts := (accepts_block hs).2 (.inr ⟨text, rfl⟩)
    refine .same (coerce_accepted hset hread haccepts) fun hm => ?_
    rcases misread_string.1 hm with ⟨hstring, _⟩ | ⟨_, j, hj, hblock⟩
    · rw [hs] at hstring
      cases hstring
    · rw [(reread?_eq_some hkind).2 ⟨hj, (accepts_block hs).2 hblock⟩] at hread
      cases hread
  | some w =>
    obtain ⟨hj, hw⟩ := (reread?_eq_some hkind).1 hread
    have hmisread := Misread.block hs hj ((accepts_block hs).1 hw)
    obtain ⟨name, schema, kind, optional, defaultText, usage, description⟩ := f
    subst hs
    obtain ⟨b, hb⟩ := isOk_iff.1 hw
    refine .other (coerce_reread hset hread) (Schema.isNull_of_decode rfl hb) hb ?_ hmisread
    rcases HashOrHeight.decode_eq_ok.1 hb with ⟨n, _, rfl⟩ | ⟨word, rfl, rfl⟩
    · intro h
      cases h
    · -- The text of a JSON text is shorter than the JSON text: it has no quotes.
      exact fun h => Json.ne_of_ofText? hj (Json.string.inj h)

theorem coerced_encode {a : f.schema.Val} (hs : f.schema.legible = true) (hst : f.steady = true)
    (hfinite : f.schema.FloatsFinite a) (hamounts : f.schema.AmountsSurvive a) (index : Nat) :
    f.Coerced index (f.schema.encode a) := by
  have hnull := Schema.isNull_encode hs hfinite
  have haccepts : f.accepts (f.schema.encode a) = true :=
    isOk_iff.2 ⟨_, Schema.decode_encode_settle hs hfinite hamounts⟩
  rw [steady, Bool.and_eq_true, decide_eq_true_eq] at hst
  obtain ⟨hkind, hst⟩ := hst
  by_cases hw : f.schema.wordless = true
  · exact coerced_of_ne_string hnull haccepts (f.schema.encode_ne_string hw a)
  obtain ⟨name, schema, kind, optional, defaultText, usage, description⟩ := f
  cases schema with
  | string => exact coerced_string rfl hkind haccepts
  | choice typeName first others =>
    have hword := List.all_eq_true.1 hst _ (List.get_mem (first :: others) a)
    rw [Bool.and_eq_true, Bool.not_eq_true', Option.isNone_iff_eq_none] at hword
    obtain ⟨hnull, hread⟩ := hword
    refine .same (coerce_accepted (fun ho => ?_) hread haccepts) fun h => ?_
    · rw [ho, Bool.true_and] at hnull
      exact hnull
    · rcases misread_string.1 h with ⟨hs, _⟩ | ⟨hs, _⟩ <;> cases hs
  | union u =>
    cases u with
    | hashOrHeight =>
      have ho : optional = false := by simpa using hst
      cases (a : HashOrHeight) with
      | height n => exact coerced_of_ne_string rfl haccepts fun text h => (nomatch h)
      | hash text => exact coerced_block rfl (fun h => nomatch hkind.symm.trans h) ho
    | _ => exact absurd hst hw
  | _ => exact absurd hst hw

/-- Whether the slot of an entry makes an entry as an argument: the entry itself, settled, unless
the slot is misread; then it is one with another slot. -/
def Builds (f : Field) (index : Nat) (e : Entry f.optional f.schema.Val) : Prop :=
  ∃ given e', f.coerce index ((f.slot e).getD .null) = .ok given
    ∧ Entry.decode f.schema.decode f.optional given = .ok e'
    ∧ (f.slot e' = f.slot e ↔ ¬ f.Misread (f.slot e))
    ∧ (¬ f.Misread (f.slot e) → e' = f.settle e)

theorem builds_of_coerce {e : Entry f.optional f.schema.Val} (index : Nat)
    (hs : f.schema.legible = true)
    (hfinite : Entry.Every f.schema.FloatsFinite f.optional e)
    (hamounts : Entry.Every f.schema.AmountsSurvive f.optional e)
    (hcoerce : f.coerce index ((f.slot e).getD .null) = .ok (f.slot e))
    (hclear : ¬ f.Misread (f.slot e)) : f.Builds index e :=
  ⟨f.slot e, f.settle e, hcoerce, decode_slot hs hfinite hamounts,
    ⟨fun _ => hclear, fun _ => f.slot_settle e⟩, fun _ => rfl⟩

theorem builds_of_misread {e e' : Entry f.optional f.schema.Val} {given : Option Json}
    (hcoerce : f.coerce index ((f.slot e).getD .null) = .ok given)
    (hdecode : Entry.decode f.schema.decode f.optional given = .ok e')
    (hne : f.slot e' ≠ f.slot e) (hm : f.Misread (f.slot e)) : f.Builds index e :=
  ⟨given, e', hcoerce, hdecode, ⟨fun h => absurd h hne, fun h => absurd hm h⟩,
    fun h => absurd hm h⟩

theorem builds_of_legible {e : Entry f.optional f.schema.Val} (hs : f.schema.legible = true)
    (hst : f.steady = true) (hfinite : Entry.Every f.schema.FloatsFinite f.optional e)
    (hamounts : Entry.Every f.schema.AmountsSurvive f.optional e) (index : Nat) :
    f.Builds index e := by
  have hcoerced := fun a hf ha => coerced_encode (a := a) hs hst hf ha index
  have hsame := builds_of_coerce index hs hfinite hamounts
  obtain ⟨name, schema, kind, optional, defaultText, usage, description⟩ := f
  cases optional with
  | false =>
    rcases hcoerced e hfinite hamounts with ⟨hcoerce, hclear⟩ | ⟨ho, _, _⟩ |
      ⟨hcoerce, hnull, hdecode, hne, hm⟩
    · exact hsame hcoerce hclear
    · cases ho
    · exact builds_of_misread hcoerce hdecode (fun h => hne (Option.some.inj h)) hm
  | true =>
    cases e with
    | none => exact hsame (coerce_unset rfl rfl) fun h => (nomatch h)
    | some a =>
      rcases hcoerced a (hfinite a rfl) (hamounts a rfl) with ⟨hcoerce, hclear⟩ |
        ⟨_, hcoerce, hm⟩ | ⟨hcoerce, hnull, hdecode, hne, hm⟩
      · exact hsame hcoerce hclear
      · have hdecode : Entry.decode schema.decode true none = .ok none := rfl
        exact builds_of_misread hcoerce hdecode (fun h => (nomatch h)) hm
      · exact builds_of_misread hcoerce (Entry.decode_some hnull hdecode)
          (fun h => hne (Option.some.inj h)) hm

end Field

/-! ## All arguments -/

def Misread (fields : List Field) (slots : List (Option Json)) : Prop :=
  ∃ f slot, (f, slot) ∈ fields.zip slots ∧ f.Misread slot

theorem misread_cons {f : Field} {fields : List Field} {slot : Option Json}
    {slots : List (Option Json)} :
    Misread (f :: fields) (slot :: slots) ↔ f.Misread slot ∨ Misread fields slots := by
  constructor
  · rintro ⟨g, s, hmem, hm⟩
    rcases List.mem_cons.1 hmem with heq | hmem
    · cases heq
      exact .inl hm
    · exact .inr ⟨g, s, hmem, hm⟩
  · rintro (hm | ⟨g, s, hmem, hm⟩)
    · exact ⟨f, slot, List.mem_cons_self, hm⟩
    · exact ⟨g, s, List.mem_cons_of_mem _ hmem, hm⟩

namespace Row

/-- The row that the slots of a row make as arguments: the row itself, settled, unless one of them
is misread; then it is one with other slots. -/
theorem coerceArgs_slots : {fs : List Field} → Legible fs → (∀ f ∈ fs, f.steady = true) →
    (row : Row fs) → Every Schema.FiniteLeaf fs row → Every Schema.AmountLeaf fs row →
    (index : Nat) →
    ∃ given row', coerceArgs index fs (arguments (slots fs row)) = .ok given
      ∧ ofSlots index fs given = .ok row'
      ∧ (slots fs row' = slots fs row ↔ ¬ Misread fs (slots fs row))
      ∧ (¬ Misread fs (slots fs row) → row' = settle fs row)
  | [], _, _, _, _, _, _ =>
    ⟨[], (), rfl, rfl, ⟨fun _ ⟨_, _, h, _⟩ => (nomatch h), fun _ => rfl⟩, fun _ => rfl⟩
  | f :: fs, ht, hst, row, hf, ha, index => by
    obtain ⟨slot, e', hcoerce, hdecode, hslot, he'⟩ := Field.builds_of_legible ht.head.2
      (hst f List.mem_cons_self) hf.1 ha.1 index
    obtain ⟨given, rest', hargs, hrest, hslots, hrest'⟩ := coerceArgs_slots ht.tail
      (fun g hg => hst g (List.mem_cons_of_mem _ hg)) row.2 hf.2 ha.2 (index + 1)
    refine ⟨slot :: given, (e', rest'), ?_, ofSlots_eq_ok.2 ⟨hdecode, hrest⟩, ?_, fun hclear => ?_⟩
    · exact bind_eq_ok.2 ⟨slot, hcoerce, bind_eq_ok.2 ⟨given, hargs, rfl⟩⟩
    · show f.slot e' :: slots fs rest' = f.slot row.1 :: slots fs row.2
        ↔ ¬ Misread (f :: fs) (f.slot row.1 :: slots fs row.2)
      rw [List.cons_eq_cons, hslot, hslots, misread_cons, not_or]
    · have hboth := not_or.1 (misread_cons.not.1 hclear)
      exact Prod.ext (he' hboth.1) (hrest' hboth.2)

end Row

theorem Command.coerceArgs_slots {c : Command} (ht : c.type.representation = .typed)
    (hl : Legible c.type.fields) (hst : ∀ f ∈ c.type.fields, f.steady = true)
    (hf : c.FloatsFinite) (ha : c.AmountsSurvive) :
    ∃ given b, coerceArgs 0 c.type.fields (arguments c.slots) = .ok given
      ∧ ofSlots c.type given = .ok b
      ∧ (b.slots = c.slots ↔ ¬ Misread c.type.fields c.slots)
      ∧ (¬ Misread c.type.fields c.slots → b = c.settle) := by
  obtain ⟨⟨method, flags, description, fields, representation⟩, value⟩ := c
  cases ht
  obtain ⟨given, row, hargs, hrow, hslots, hsettle⟩ := Row.coerceArgs_slots hl hst value hf ha 0
  exact ⟨given, ⟨⟨method, flags, description, fields, .typed⟩, row⟩, hargs,
    ofSlots_eq_ok.2 ⟨row, hrow, rfl⟩, hslots, fun hclear => congrArg (Command.mk _) (hsettle hclear)⟩

end NodeRpc
