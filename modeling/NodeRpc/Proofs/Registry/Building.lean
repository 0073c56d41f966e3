import NodeRpc.Proofs.Registry.Construction

/-!
# What becomes of arguments

Arguments are refused for the method, then for their number, then for the first that its field takes
in no way; otherwise they make a command, and what a field of it holds is decoded from what the
argument stands for.

* `Field.Takes`                     the three ways in which a field takes an argument;
* `Field.StandsFor`                 what an argument stands for: the JSON that its text is, or itself;
* `Field.MadeFrom`                  what a field holds that was built from an argument;
* `Covered.everyHeld_madeFrom`      every field of a command holds what is made from its argument;
* `Reachable.newCommand_outcome`    what becomes of a method and arguments.
-/

namespace NodeRpc

/-! ## One argument -/

namespace Field

variable {f : Field} {v w : Json}

/-- Whether an argument leaves a field unset: the field is optional, and the argument is null or the
word for it. -/
def Unsets (f : Field) (v : Json) : Prop := f.optional = true ∧ (v = .null ∨ v = .string "null")

/-- Whether an argument is the text of other JSON, which the field accepts and which is no text for
a field of texts. -/
def Rereads (f : Field) (v w : Json) : Prop :=
  ∃ text, v = .string text ∧ f.kind ≠ .string ∧ Json.ofText? text = some w ∧ f.accepts w = true

inductive Takes (f : Field) (v : Json) : Prop
  | unset : f.Unsets v → Takes f v
  | accepted : f.accepts v = true → Takes f v
  | reread {w : Json} : f.Rereads v w → Takes f v

/-- What an argument stands for: the JSON that its text is, or itself if there is none. -/
inductive StandsFor (f : Field) (v : Json) : Json → Prop
  | reread {w : Json} : f.Rereads v w → StandsFor f v w
  | literal : (∀ w, ¬ f.Rereads v w) → StandsFor f v v

theorem unsets_iff : f.Unsets v ↔ (f.optional && leavesUnset v) = true := by
  have hv : leavesUnset v = true ↔ v = .null ∨ v = .string "null" := by
    cases v <;> simp [leavesUnset]
  rw [Bool.and_eq_true, hv]
  exact Iff.rfl

theorem rereads_iff : f.Rereads v w ↔ f.reread? v = some w := by
  constructor
  · rintro ⟨text, rfl, hkind, hread⟩
    exact (reread?_eq_some hkind).2 hread
  · exact exists_text_of_reread

theorem standsFor_getD : f.StandsFor v ((f.reread? v).getD v) := by
  cases h : f.reread? v with
  | some w => exact .reread (rereads_iff.2 h)
  | none =>
    refine .literal fun w hw => ?_
    rw [rereads_iff, h] at hw
    cases hw

theorem rejects_iff : f.Rejects v ↔ ¬ f.Takes v := by
  constructor
  · intro h htakes
    cases htakes with
    | unset hunset => exact h.filledBy.not_unset (unsets_iff.1 hunset)
    | accepted haccepts =>
      have hfalse := h.accepts
      rw [haccepts] at hfalse
      cases hfalse
    | reread hread =>
      have hnone := h.reread
      rw [rereads_iff.1 hread] at hnone
      cases hnone
  · intro h
    refine ⟨filledBy_of_not_unset fun hunset => h (.unset (unsets_iff.2 hunset)), ?_, ?_⟩
    · exact Option.eq_none_iff_forall_not_mem.2 fun w hw => h (.reread (rereads_iff.2 hw))
    · exact eq_false_of_ne_true fun haccepts => h (.accepted haccepts)

/-- What a field holds that was built from an argument, if there was one.  A field that is not set
is optional: it had no argument, one that left it unset, or one whose text is that of null. -/
inductive MadeFrom (f : Field) : Option Json → Option f.schema.Val → Prop
  | missing : f.optional = true → MadeFrom f none none
  | unset {v : Json} : f.Unsets v → MadeFrom f (some v) none
  | null {v : Json} : f.optional = true → ¬ f.Unsets v → f.StandsFor v .null →
    MadeFrom f (some v) none
  | set {v w : Json} {a : f.schema.Val} : ¬ f.Unsets v → f.StandsFor v w →
    ¬ (f.optional = true ∧ w = .null) → f.schema.decode w = .ok a → MadeFrom f (some v) (some a)

end Field

/-! ## All arguments -/

def Entry.held? {α : Type} : (optional : Bool) → Entry optional α → Option α
  | true, o => o
  | false, a => some a

/-- Whether every entry of a row is as `P` says of its place, its field, and what it holds.  The
first place is `index`. -/
def Row.EveryHeld (P : Nat → (f : Field) → Option f.schema.Val → Prop) :
    Nat → (fs : List Field) → Row fs → Prop
  | _, [], _ => True
  | index, f :: fs, row =>
    P index f (Entry.held? f.optional row.1) ∧ EveryHeld P (index + 1) fs row.2

namespace Field

variable {f : Field} {arg : Option Json}

theorem held_of_read {slot : Option Json} {e : Entry f.optional f.schema.Val}
    (h : f.read slot = .ok e) :
    (f.optional = true ∧ (slot = none ∨ slot = some .null) ∧ Entry.held? f.optional e = none)
    ∨ ¬ (f.optional = true ∧ (slot = none ∨ slot = some .null))
      ∧ ∃ a, f.schema.decode (slot.getD .null) = .ok a ∧ Entry.held? f.optional e = some a := by
  obtain ⟨name, schema, kind, optional, text, usage, description⟩ := f
  cases optional with
  | false => exact .inr ⟨fun hunset => (nomatch hunset.1), e, h, rfl⟩
  | true =>
    cases e with
    | none => exact .inl ⟨rfl, Entry.decode_eq_none h, rfl⟩
    | some a =>
      refine .inr ⟨?_, ?_⟩
      · rintro ⟨_, rfl | rfl⟩
        · cases h
        · cases h
      · obtain ⟨v, rfl, hv⟩ := Entry.decode_eq_some h
        exact ⟨a, hv, rfl⟩

/-- The slot that an argument fills stands for what is made from the argument.  An argument that is
missing must be that of an optional field. -/
theorem madeFrom_of_read (harg : f.optional = false → arg ≠ none)
    {e : Entry f.optional f.schema.Val} (h : f.read (f.given arg) = .ok e) :
    f.MadeFrom arg (Entry.held? f.optional e) := by
  cases arg with
  | none =>
    have ho : f.optional = true := eq_true_of_ne_false fun ho => harg ho rfl
    rcases held_of_read h with ⟨_, _, hheld⟩ | ⟨hset, _⟩
    · rw [hheld]
      exact .missing ho
    · exact absurd ⟨ho, .inl rfl⟩ hset
  | some v =>
    by_cases hunset : f.Unsets v
    · have hgiven : f.given (some v) = none := if_pos (unsets_iff.1 hunset)
      rw [hgiven] at h
      rcases held_of_read h with ⟨_, _, hheld⟩ | ⟨hset, _⟩
      · rw [hheld]
        exact .unset hunset
      · exact absurd ⟨hunset.1, .inl rfl⟩ hset
    · have hgiven : f.given (some v) = some ((f.reread? v).getD v) :=
        if_neg fun hleaves => hunset (unsets_iff.2 hleaves)
      rw [hgiven] at h
      have hstands : f.StandsFor v ((f.reread? v).getD v) := standsFor_getD
      generalize (f.reread? v).getD v = w at h hstands
      rcases held_of_read h with ⟨ho, hnull, hheld⟩ | ⟨hset, a, ha, hheld⟩
      · have hw : w = .null := Option.some.inj (hnull.resolve_left (Option.some_ne_none w))
        rw [hheld]
        exact .null ho hunset (hw ▸ hstands)
      · rw [hheld]
        exact .set hunset hstands (fun hnull => hset ⟨hnull.1, .inr (congrArg some hnull.2)⟩) ha

end Field

theorem Row.everyHeld_of_ofSlots {P : Nat → (f : Field) → Option f.schema.Val → Prop} :
    {fields : List Field} → {given : List (Option Json)} → given.length = fields.length →
      {index : Nat} → {row : Row fields} →
      (∀ (i : Nat) (f : Field) (slot : Option Json) (e : Entry f.optional f.schema.Val),
        fields[i]? = some f → given[i]? = some slot → f.read slot = .ok e →
          P (index + i) f (Entry.held? f.optional e)) →
      ofSlots index fields given = .ok row → EveryHeld P index fields row
  | [], _, _, _, _, _, _ => trivial
  | f :: fields, slot :: given, hlength, index, row, hP, h => by
    obtain ⟨hentry, hrest⟩ := ofSlots_eq_ok.1 h
    refine ⟨hP 0 f slot row.1 rfl rfl hentry, ?_⟩
    refine everyHeld_of_ofSlots (Nat.succ.inj hlength) (fun i g s e hg hs he => ?_) hrest
    rw [Nat.add_assoc, Nat.add_comm 1 i]
    exact hP (i + 1) g s e hg hs he

section Arguments

variable {fields : List Field} {args : List Json}

/-- The fields of a row that was built from covered arguments hold what is made from them. -/
theorem Covered.everyHeld_madeFrom (h : Covered fields args) {row : Row fields}
    (hrow : Row.ofSlots 0 fields (given fields args) = .ok row) :
    Row.EveryHeld (fun i f held => f.MadeFrom args[i]? held) 0 fields row := by
  refine Row.everyHeld_of_ofSlots List.length_mapIdx (fun i f slot e hf hslot he => ?_) hrow
  rw [List.getElem?_mapIdx, hf, Option.map_some, Option.some_inj] at hslot
  rw [Nat.zero_add]
  exact Field.madeFrom_of_read (h.required i f hf) (hslot ▸ he)

theorem Covered.built_of_coerced {t : CommandType} (h : Covered t.fields args)
    {slots : List (Option Json)} (hslots : coerceArgs 0 t.fields args = .ok slots) :
    ∃ c, Command.ofSlots t slots = .ok c := by
  rcases coerceArgs_cases t.fields args 0 with ⟨_, hall⟩ | ⟨i, f, v, _, herror⟩
  · rcases h.build_cases with ⟨⟨row, _, hb⟩, _⟩ | ⟨i, f, v, hfirst, _⟩
    · rw [hslots] at hb
      exact ⟨_, hb⟩
    · exact absurd hfirst.holds (hall f v hfirst.mem_zip)
  · rw [hslots] at herror
    cases herror

end Arguments

/-! ## The method and the number of arguments -/

section Failures

variable {code : ErrorCode}

/-- A step that is followed by one that does not fail in a way fails in that way by itself. -/
theorem failsWith_bind {α β : Type} {x : Except CodecError α} {k : α → Except CodecError β}
    (hk : ∀ a, x = .ok a → ¬ FailsWith (k a) code) : FailsWith (x >>= k) code ↔ FailsWith x code := by
  cases x with
  | error e => exact failsWith_error.trans failsWith_error.symm
  | ok a => exact iff_of_false (hk a rfl) not_failsWith_ok

theorem Command.not_failsWith_ofSlots {t : CommandType} {given : List (Option Json)}
    (hlength : given.length = t.fields.length) (hcode : code ≠ .invalidType) :
    ¬ FailsWith (ofSlots t given) code := by
  rcases ofSlots_cases hlength with ⟨⟨row, _, hc⟩, _⟩ | ⟨i, f, slot, cause, _, _, herror⟩
  · rw [hc]
    exact not_failsWith_ok
  · rw [herror]
    exact fun h => hcode (failsWith_error.1 h).symm

theorem not_failsWith_build {t : CommandType} {args : List Json} (hcode : code ≠ .invalidType) :
    ¬ FailsWith (coerceArgs 0 t.fields args >>= Command.ofSlots t) code := by
  rcases coerceArgs_cases t.fields args 0 with ⟨hgiven, _⟩ | ⟨i, f, v, _, herror⟩
  · rw [hgiven]
    exact Command.not_failsWith_ofSlots List.length_mapIdx hcode
  · rw [herror]
    exact fun h => hcode (failsWith_error.1 h).symm

end Failures

namespace Registry

variable {r : Registry} {method : String} {args : List Json} {code : ErrorCode}

theorem failsWith_select_unregisteredMethod {received : Nat} :
    FailsWith (r.select method received) .unregisteredMethod ↔ r.descriptor? method = none := by
  have hselected := r.selection_select method received
  generalize r.select method received = selected at hselected
  cases hselected with
  | unregistered hd => exact iff_of_true (failsWith_error.2 rfl) hd
  | count hd _ => exact iff_of_false (fun h => nomatch failsWith_error.1 h) (by rw [hd]; nofun)
  | selected hd _ => exact iff_of_false not_failsWith_ok (by rw [hd]; nofun)

theorem failsWith_select_numParams {received : Nat} {d : Descriptor}
    (hd : r.descriptor? method = some d) :
    FailsWith (r.select method received) .numParams ↔ ¬ d.InRange received := by
  by_cases hn : d.InRange received
  · rw [select_of_inRange hd hn]
    exact iff_of_false not_failsWith_ok (not_not_intro hn)
  · have hselected := r.selection_select method received
    generalize r.select method received = selected at hselected
    cases hselected with
    | unregistered hnone => rw [hd] at hnone; cases hnone
    | count _ _ => exact iff_of_true (failsWith_error.2 rfl) hn
    | selected hd' hn' =>
      rw [hd] at hd'
      cases hd'
      exact absurd hn' hn

/-- A command that is not built, but for a wrong type, is not for its method or its count. -/
theorem failsWith_newCommand (hcode : code ≠ .invalidType) :
    FailsWith (r.newCommand method args).result code
      ↔ FailsWith (r.select method args.length) code := by
  rw [newCommand_eq]
  exact failsWith_bind fun _ _ => not_failsWith_build hcode

theorem failsWith_unmarshalRequest (q : Request) (hcode : code ≠ .invalidType) :
    FailsWith (r.unmarshalRequest q).result code
      ↔ FailsWith (r.select q.method q.params.length) code := by
  rw [unmarshalRequest_eq]
  refine failsWith_bind fun d _ => ?_
  exact Command.not_failsWith_ofSlots (length_fillSlots d.fields d.defaults q.params) hcode

/-! ## Commands from arguments -/

/-- A command is not built for an unknown method exactly when the method is not registered, for a
wrong count exactly when the number of arguments is out of range, as a request with these parameters
is not read; otherwise for a wrong type exactly when a field takes its argument in no way, and then
the first such argument is named, with its shape.  Once all arguments fill their slots a command is
built, and its fields hold what is made from their arguments. -/
theorem Reachable.newCommand_outcome (hr : r.Reachable) (method : String) (args : List Json) :
    let built := (r.newCommand method args).result
    let read := fun version id => (r.unmarshalRequest ⟨version, method, args, id⟩).result
    -- the method
    (FailsWith built .unregisteredMethod ↔ r.has method = false)
    ∧ (∀ version id, FailsWith built .unregisteredMethod
        ↔ FailsWith (read version id) .unregisteredMethod)
    -- the number of arguments
    ∧ (∀ version id, FailsWith built .numParams ↔ FailsWith (read version id) .numParams)
    ∧ ∀ d, r.descriptor? method = some d →
      (FailsWith built .numParams ↔ ¬ d.InRange args.length)
      ∧ (d.InRange args.length →
        -- the first argument that is not taken
        (FailsWith built .invalidType ↔ ∃ f v, (f, v) ∈ d.fields.zip args ∧ ¬ f.Takes v)
        ∧ (∀ e, built = .error e →
          ∃ i f v, FirstWhere (fun f v => ¬ f.Takes v) d.fields args i f v
            ∧ e = .badArgument (f.ref i) v.kind
            ∧ e.message = "parameter #" ++ toString (i + 1) ++ " '" ++ f.name ++ "'"
              ++ " must be type " ++ f.schema.typeName ++ " (got " ++ v.kind.text ++ ")")
        -- the command
        ∧ (∀ slots, coerceArgs 0 d.fields args = .ok slots →
          ∃ c, Command.ofSlots d.type slots = .ok c ∧ built = .ok c)
        ∧ ((∀ f v, (f, v) ∈ d.fields.zip args → f.Takes v) →
          ∃ row, built = .ok (.ofRow d.type row)
            ∧ Row.EveryHeld (fun i f held => f.MadeFrom args[i]? held) 0 d.type.fields row)) := by
  intro built read
  have hmethod : FailsWith built .unregisteredMethod ↔ r.descriptor? method = none :=
    (failsWith_newCommand (by decide)).trans failsWith_select_unregisteredMethod
  have hagree : ∀ code, code ≠ .invalidType → ∀ version id,
      (FailsWith built code ↔ FailsWith (read version id) code) := fun code hcode version id =>
    (failsWith_newCommand hcode).trans
      (failsWith_unmarshalRequest ⟨version, method, args, id⟩ hcode).symm
  have hhas : r.has method = false ↔ r.descriptor? method = none := by
    unfold has
    rw [Option.isSome_eq_false_iff, Option.isNone_iff_eq_none]
  refine ⟨hmethod.trans hhas.symm, hagree _ (by decide), hagree _ (by decide), fun d hd =>
    ⟨(failsWith_newCommand (by decide)).trans (failsWith_select_numParams hd), fun hn => ?_⟩⟩
  have hcovered := hr.sound.covered_of_inRange (mem_of_descriptor? hd) hn
  have hbuilt : built = coerceArgs 0 d.type.fields args >>= Command.ofSlots d.type := by
    show (r.newCommand method args).result = _
    rw [newCommand_eq, select_of_inRange hd hn]
    rfl
  have hcoerced : ∀ slots, coerceArgs 0 d.fields args = .ok slots →
      ∃ c, Command.ofSlots d.type slots = .ok c ∧ built = .ok c := by
    intro slots hslots
    obtain ⟨c, hc⟩ := hcovered.built_of_coerced hslots
    exact ⟨c, hc, hbuilt.trans (bind_eq_ok.2 ⟨slots, hslots, hc⟩)⟩
  have htakes : ∀ f v, (f, v) ∈ d.fields.zip args → (f.Rejects v ↔ ¬ f.Takes v) :=
    fun f v _ => Field.rejects_iff
  rcases hcovered.build_cases with ⟨⟨row, hrow, hb⟩, hall⟩ | ⟨i, f, v, hfirst, hb⟩
  · have hok : built = .ok (.ofRow d.type row) := hbuilt.trans hb
    refine ⟨?_, fun e he => ?_, hcoerced, fun _ => ⟨row, hok, hcovered.everyHeld_madeFrom hrow⟩⟩
    · rw [hok]
      refine iff_of_false not_failsWith_ok ?_
      rintro ⟨f, v, hmem, hnot⟩
      exact hall f v hmem (Field.rejects_iff.2 hnot)
    · rw [hok] at he
      cases he
  · have herror : built = .error (.badArgument (f.ref i) v.kind) := hbuilt.trans hb
    refine ⟨?_, fun e he => ?_, hcoerced, fun hall => ?_⟩
    · rw [herror]
      exact iff_of_true (failsWith_error.2 rfl) ⟨f, v, hfirst.mem_zip, Field.rejects_iff.1 hfirst.holds⟩
    · rw [herror] at he
      cases he
      exact ⟨i, f, v, hfirst.congr htakes, rfl, rfl⟩
    · exact absurd (hall f v hfirst.mem_zip) (Field.rejects_iff.1 hfirst.holds)

/-- The word for null leaves its field unset; the text behind it is no JSON. -/
theorem newCommand_outcome_getNetworkHashPs :
    let t := Catalog.getNetworkHashPs
    let r := empty.add (t.descriptor t.method t.flags)
    let args : List Json := [.string "null", .string "x"]
    (r.newCommand t.method args).result = .error (.badArgument ⟨1, "height", "i32"⟩ .string) := by
  intro t r args
  have hr : r.Reachable := .single (by decide +kernel) (by decide)
  have hd : r.descriptor? t.method = some (t.descriptor t.method t.flags) :=
    hr.sound.descriptor?_of_mem List.mem_cons_self
  have hn : (t.descriptor t.method t.flags).InRange args.length := by
    unfold Descriptor.InRange
    decide +kernel
  have hnot : ¬ (t.fields[1]).Takes (.string "x") := by
    rw [← Field.rejects_iff]
    exact ⟨fun _ => by decide, by decide +kernel, by decide +kernel⟩
  have hfirst : FirstWhere (fun f v => ¬ f.Takes v) t.fields args 1 _ (.string "x") :=
    .tail (not_not_intro (.unset ⟨rfl, .inr rfl⟩)) (.head hnot)
  obtain ⟨_, _, _, hall⟩ := hr.newCommand_outcome t.method args
  obtain ⟨hfails, hnamed, _⟩ := (hall _ hd).2 hn
  obtain ⟨e, he, _⟩ := hfails.2 ⟨_, _, hfirst.mem_zip, hfirst.holds⟩
  obtain ⟨i, f, v, hfirst', hparam, _⟩ := hnamed e he
  obtain ⟨rfl, rfl, rfl⟩ := hfirst.unique hfirst'
  exact he.trans (congrArg _ hparam)

end Registry

end NodeRpc
