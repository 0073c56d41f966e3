import Mathlib.Algebra.Order.BigOperators.Group.List
import NodeRpc.Proofs.Registry.History
import NodeRpc.Proofs.Registry.Refusals
import NodeRpc.Proofs.Text.HexDigits
import NodeRpc.Registry.Help

/-!
# The layout of usage and help

The usage line is put together from the required fields and from the optional ones.  Required fields
come first in every registered table, so the line follows the order of the parameters.

* `usageLine_eq`                       the line of a table, in the order of its fields;
* `helpRows_of_described`              one row per field, if all are described;
* `helpRows_of_undescribed`            else the first field that is not is named;
* `Descriptor.RowOf`                   what a row shows, and in which columns;
* `Reachable.usage_help_layout`        both texts of every registered method.

The column of names is as wide as the longest name in bytes, and filled up to as many characters.
A name has no more characters than bytes, so the cells of all rows have one width.
-/

namespace NodeRpc

/-! ## Texts -/

theorem length_le_utf8ByteSize (s : String) : s.length ≤ s.utf8ByteSize := by
  rw [← length_utf8, ← String.ofList_toList (s := s), utf8_ofList, List.length_flatMap,
    String.length_ofList]
  calc s.toList.length = (s.toList.map fun c => (String.utf8EncodeChar c).length).length := by
        rw [List.length_map]
    _ ≤ (s.toList.map fun c => (String.utf8EncodeChar c).length).sum := by
        refine List.length_le_sum_of_one_le _ fun n hn => ?_
        obtain ⟨c, _, rfl⟩ := List.mem_map.1 hn
        rw [String.length_utf8EncodeChar]
        exact c.utf8Size_pos

theorem intercalate_cons (separator s : String) (texts : List String) :
    separator.intercalate (s :: texts) = s ++ String.join (texts.map (separator ++ ·)) := by
  induction texts generalizing s with
  | nil => rw [String.intercalate_singleton, List.map_nil, String.join_nil, String.append_empty]
  | cons t texts ih =>
    rw [String.intercalate_cons_cons, ih, List.map_cons, String.join_cons, String.append_assoc,
      String.append_assoc]

/-! ## Usage -/

/-- Where required fields come first, the line follows the order of the fields. -/
theorem usageLine_eq (method : String) {fields : List Field} {required : Nat}
    (hrequired : ∀ f ∈ fields.take required, f.optional = false)
    (hoptional : ∀ f ∈ fields.drop required, f.optional = true) :
    usageLine method fields
      = method ++ String.join ((fields.take required).map fun f => " " ++ f.usageText)
        ++ if required < fields.length then
            " (" ++ " ".intercalate ((fields.drop required).map Field.usageText) ++ ")"
          else "" := by
  have hfirst : fields.filter (not ∘ Field.optional) = fields.take required := by
    conv_lhs => rw [← List.take_append_drop required fields]
    rw [List.filter_append, List.filter_eq_self.2, List.filter_eq_nil_iff.2, List.append_nil]
    · intro f hf
      simp [hoptional f hf]
    · intro f hf
      simp [hrequired f hf]
  have hlast : fields.filter Field.optional = fields.drop required := by
    conv_lhs => rw [← List.take_append_drop required fields]
    rw [List.filter_append, List.filter_eq_nil_iff.2, List.filter_eq_self.2 hoptional,
      List.nil_append]
    intro f hf
    rw [hrequired f hf]
    exact Bool.false_ne_true
  unfold usageLine
  rw [List.partition_eq_filter_filter]
  dsimp only
  rw [hfirst, hlast, intercalate_cons, List.map_map]
  by_cases h : required < fields.length
  · have hne : (fields.drop required).isEmpty = false := by
      rw [List.isEmpty_eq_false_iff, ← List.length_pos_iff, List.length_drop]
      omega
    rw [hne, if_neg Bool.false_ne_true, if_pos h, String.append_assoc, String.append_assoc,
      String.append_assoc, String.append_assoc]
    rfl
  · rw [List.drop_eq_nil_of_le (Nat.le_of_not_lt h), if_neg h, String.append_empty]
    rfl

/-! ## Rows -/

section Rows

variable {method : String} {width index : Nat} {fields rest : List Field} {f : Field}
  {defaults : List (Option Json)}

theorem helpRows_of_described (h : ∀ f ∈ fields, f.description ≠ none) :
    helpRows method width index fields defaults
      = .ok (fields.mapIdx fun i f =>
          helpRow width (index + i) f defaults[i]?.join (f.description.getD "")) := by
  induction fields generalizing index defaults with
  | nil => rfl
  | cons f fields ih =>
    obtain ⟨hf, hfields⟩ := List.forall_mem_cons.1 h
    obtain ⟨text, htext⟩ := Option.ne_none_iff_exists'.1 hf
    have hhead : defaults.headD none = defaults[0]?.join := by cases defaults <;> rfl
    have hplace (i : Nat) : index + 1 + i = index + (i + 1) := by omega
    unfold helpRows
    rw [htext, ih hfields, List.mapIdx_cons, hhead, htext]
    simp only [hplace, List.getElem?_tail]
    rfl

/-- The first field without a description is named. -/
theorem helpRows_of_undescribed {before : List Field} (h : ∀ g ∈ before, g.description ≠ none)
    (hf : f.description = none) :
    helpRows method width index (before ++ f :: rest) defaults
      = .error (.undescribedParam method (f.ref (index + before.length))) := by
  induction before generalizing index defaults with
  | nil =>
    show helpRows method width index (f :: rest) defaults = _
    unfold helpRows
    rw [hf]
    rfl
  | cons g before ih =>
    obtain ⟨hg, hbefore⟩ := List.forall_mem_cons.1 h
    obtain ⟨text, htext⟩ := Option.ne_none_iff_exists'.1 hg
    rw [List.cons_append]
    unfold helpRows
    rw [htext, ih hbefore, List.length_cons, Nat.add_assoc, Nat.add_comm 1]
    rfl

end Rows

/-! ## Descriptors -/

theorem le_foldl_max {α : Type} (size : α → Nat) {l : List α} {n width : Nat}
    (h : n ≤ width ∨ ∃ a ∈ l, n ≤ size a) :
    n ≤ l.foldl (fun width a => max width (size a)) width := by
  induction l generalizing width with
  | nil =>
    rcases h with h | ⟨_, ha, _⟩
    · exact h
    · cases ha
  | cons b l ih =>
    rw [List.foldl_cons]
    apply ih
    rcases h with h | ⟨a, ha, h⟩
    · exact .inl (Nat.le_trans h (Nat.le_max_left _ _))
    · rcases List.mem_cons.1 ha with rfl | ha
      · exact .inl (Nat.le_trans h (Nat.le_max_right _ _))
      · exact .inr ⟨a, ha, h⟩

namespace Descriptor

variable {d : Descriptor} {f : Field}

theorem Orderly.of_mem_take (h : d.Orderly) (hf : f ∈ d.fields.take d.required) :
    f.optional = false := by
  obtain ⟨i, hi⟩ := List.getElem?_of_mem hf
  rw [List.getElem?_take] at hi
  split at hi
  · exact (h.required i f hi).2 ‹_›
  · cases hi

theorem Orderly.of_mem_drop (h : d.Orderly) (hf : f ∈ d.fields.drop d.required) :
    f.optional = true := by
  obtain ⟨i, hi⟩ := List.getElem?_of_mem hf
  rw [List.getElem?_drop] at hi
  rw [← Bool.not_eq_false]
  intro hfalse
  exact absurd ((h.required _ f hi).1 hfalse) (Nat.not_lt.2 (Nat.le_add_right _ _))

theorem length_displayName_le (hf : f ∈ d.fields) : f.displayName.length ≤ d.nameWidth :=
  le_foldl_max (fun f => f.displayName.utf8ByteSize)
    (.inr ⟨f, hf, length_le_utf8ByteSize f.displayName⟩)

/-- What the row of the `i`-th field shows: its number and a dot; its name in a cell of some width;
its kind, whether it may be left out and what stands for it then; and its description. -/
def RowOf (d : Descriptor) (width i : Nat) (f : Field) (row : String) : Prop :=
  ∃ blanks cell presence description,
    row = toString (i + 1) ++ "." ++ cell ++ f.kind.text ++ ", " ++ presence ++ ") " ++ description
    ∧ cell = " " ++ f.displayName ++ blanks ++ " (" ∧ (∀ c ∈ blanks.toList, c = ' ')
    ∧ cell.length = width
    ∧ (f.optional = false → presence = "required")
    ∧ (f.optional = true → d.defaults[i]?.join = none → presence = "optional")
    ∧ (∀ v, f.optional = true → d.defaults[i]?.join = some v →
        presence = "optional, default=" ++ v.toText)
    ∧ f.description = some description

theorem rowOf_helpRow {width i : Nat} {description : String} (hwidth : f.displayName.length ≤ width)
    (hdescription : f.description = some description) :
    d.RowOf (width + 3) i f (helpRow width i f d.defaults[i]?.join description) := by
  refine ⟨String.ofList (List.replicate (width - f.displayName.length) ' '), _,
    presenceText f.optional d.defaults[i]?.join, description, ?_, rfl, ?_, ?_, ?_, ?_, ?_,
    hdescription⟩
  · have hdot : (". " : String) = "." ++ " " := rfl
    unfold helpRow padTo
    rw [hdot]
    simp only [String.append_assoc]
  · intro c hc
    rw [String.toList_ofList] at hc
    exact List.eq_of_mem_replicate hc
  · have hblanks (n : Nat) : (String.ofList (List.replicate n ' ')).length = n := by
      rw [String.length_ofList, List.length_replicate]
    rw [String.length_append, String.length_append, String.length_append, hblanks]
    show 1 + f.displayName.length + (width - f.displayName.length) + 2 = width + 3
    omega
  · intro ho
    rw [ho]
    rfl
  · intro ho hdefault
    rw [ho, hdefault]
    rfl
  · intro v ho hdefault
    rw [ho, hdefault]
    rfl

def Described (d : Descriptor) : Prop :=
  d.type.description ≠ none ∧ ∀ f ∈ d.fields, f.description ≠ none

theorem help_of_undescribed (h : d.type.description = none) :
    d.help = .error (.undescribedMethod d.method) := by
  unfold help
  rw [h]
  rfl

theorem help_of_undescribedParam {before rest : List Field} (hmethod : d.type.description ≠ none)
    (hfields : d.fields = before ++ f :: rest) (hbefore : ∀ g ∈ before, g.description ≠ none)
    (hf : f.description = none) :
    d.help = .error (.undescribedParam d.method (f.ref before.length)) := by
  obtain ⟨text, htext⟩ := Option.ne_none_iff_exists'.1 hmethod
  unfold help
  rw [htext, hfields, helpRows_of_undescribed hbefore hf, Nat.zero_add]
  rfl

theorem join_lines (usage description : String) (body : List String) :
    String.join (([usage, "", description, "", "Arguments:"] ++ body).map fun line => line ++ "\n")
      = usage ++ "\n\n" ++ description ++ "\n\nArguments:\n"
        ++ String.join (body.map fun line => line ++ "\n") := by
  have hbreaks : "\n\n" = "\n" ++ ("" ++ "\n") := rfl
  have hheading : "\n\nArguments:\n" = "\n" ++ (("" ++ "\n") ++ ("Arguments:" ++ "\n")) := rfl
  rw [List.map_append, String.join_append, hbreaks, hheading]
  simp only [List.map_cons, List.map_nil, String.join_cons, String.join_nil, String.append_assoc,
    String.append_empty]

def rows (d : Descriptor) : List String :=
  d.fields.mapIdx fun i f =>
    helpRow d.nameWidth i f d.defaults[i]?.join (f.description.getD "")

theorem helpRows_eq_rows (h : ∀ f ∈ d.fields, f.description ≠ none) :
    helpRows d.method d.nameWidth 0 d.fields d.defaults = .ok d.rows := by
  rw [helpRows_of_described h]
  simp only [Nat.zero_add]
  rfl

theorem rowOf_of_mem_rows (h : ∀ f ∈ d.fields, f.description ≠ none) {i : Nat} {row : String}
    (hf : d.fields[i]? = some f) (hrow : d.rows[i]? = some row) :
    d.RowOf (d.nameWidth + 3) i f row := by
  have hmem := List.mem_of_getElem? hf
  obtain ⟨text, htext⟩ := Option.ne_none_iff_exists'.1 (h f hmem)
  unfold rows at hrow
  rw [List.getElem?_mapIdx, hf, Option.map_some, Option.some_inj, htext] at hrow
  rw [← hrow]
  exact rowOf_helpRow (length_displayName_le hmem) htext

/-- The help text of a method that is described with all its fields. -/
theorem help_of_described (h : d.Described) :
    ∃ (description : String) (rows : List String), d.type.description = some description
      ∧ d.help = .ok (d.usage ++ "\n\n" ++ description ++ "\n\nArguments:\n"
        ++ if d.fields = [] then "None\n" else String.join (rows.map (· ++ "\n")))
      ∧ rows.length = d.fields.length
      ∧ ∀ (i : Nat) (f : Field) (row : String), d.fields[i]? = some f → rows[i]? = some row →
        d.RowOf (d.nameWidth + 3) i f row := by
  obtain ⟨description, hdescription⟩ := Option.ne_none_iff_exists'.1 h.1
  refine ⟨description, d.rows, hdescription, ?_, List.length_mapIdx, fun i f row =>
    rowOf_of_mem_rows h.2⟩
  have hbody : String.join
      ((if d.rows.isEmpty then ["None"] else d.rows).map fun line => line ++ "\n")
      = if d.fields = [] then "None\n" else String.join (d.rows.map fun line => line ++ "\n") := by
    by_cases hnil : d.fields = []
    · have hrows : d.rows = [] := by rw [rows, hnil, List.mapIdx_nil]
      rw [hrows, if_pos hnil]
      rfl
    · have hrows : d.rows.isEmpty = false := by
        rw [List.isEmpty_eq_false_iff, rows, ne_eq, List.mapIdx_eq_nil_iff]
        exact hnil
      rw [hrows, if_neg hnil]
      rfl
  unfold help
  rw [hdescription, helpRows_eq_rows h.2, ← hbody, ← join_lines]
  rfl

theorem failsWith_help (h : ¬ d.Described) : FailsWith d.help .missingDescription := by
  by_cases hmethod : d.type.description = none
  · exact ⟨_, help_of_undescribed hmethod, rfl⟩
  · have hany : ∃ f ∈ d.fields, f.description.isNone = true := by
      by_contra hall
      refine h ⟨hmethod, fun f hf hnone => hall ⟨f, hf, ?_⟩⟩
      rw [hnone]
      rfl
    obtain ⟨f, hf⟩ := Option.isSome_iff_exists.1 (List.find?_isSome.2 hany)
    obtain ⟨hnone, before, rest, hfields, hbefore⟩ := List.find?_eq_some_iff_append.1 hf
    refine ⟨_, help_of_undescribedParam hmethod hfields (fun g hg hg' => ?_)
      (Option.isNone_iff_eq_none.1 hnone), rfl⟩
    have hsome := hbefore g hg
    rw [hg'] at hsome
    cases hsome

end Descriptor

/-! ## Main result -/

namespace Registry

variable {r : Registry} {method : String} {d : Descriptor}

/-- The usage line of a method names its parameters in order, the optional ones in one group of
parentheses.  Help is given exactly when the method and its fields are all described.  It shows the
usage line, the description, and a numbered row for each parameter, in columns; or else it blames
the method, or the first field that is not described. -/
theorem Reachable.usage_help_layout (hr : r.Reachable) (hd : r.descriptor? method = some d) :
    let required := d.fields.take d.required
    let optional := d.fields.drop d.required
    let usage := method ++ String.join (required.map fun f => " " ++ f.usageText)
      ++ if d.required < d.fields.length then
          " (" ++ " ".intercalate (optional.map Field.usageText) ++ ")"
        else ""
    -- usage
    (d.required = (d.fields.countP fun f => !f.optional)
      ∧ (∀ f ∈ required, f.optional = false) ∧ (∀ f ∈ optional, f.optional = true)
      ∧ r.usageText method = .ok usage)
    -- help
    ∧ ((∃ text, r.helpText method = .ok text) ↔ d.Described)
    ∧ (d.Described → ∃ (description : String) (rows : List String) (width : Nat),
        d.type.description = some description
        ∧ r.helpText method = .ok (usage ++ "\n\n" ++ description ++ "\n\nArguments:\n"
          ++ if d.fields = [] then "None\n" else String.join (rows.map fun row => row ++ "\n"))
        ∧ rows.length = d.fields.length
        ∧ ∀ (i : Nat) (f : Field) (row : String), d.fields[i]? = some f → rows[i]? = some row →
          d.RowOf width i f row)
    -- refusals
    ∧ (¬ d.Described → FailsWith (r.helpText method) .missingDescription)
    ∧ (d.type.description = none → r.helpText method = .error (.undescribedMethod method))
    ∧ (d.type.description ≠ none → ∀ before f rest, d.fields = before ++ f :: rest →
        (∀ g ∈ before, g.description ≠ none) → f.description = none →
          r.helpText method = .error (.undescribedParam method (f.ref before.length))) := by
  intro required optional usage
  have hlookup : r.lookup method = .ok d := by
    unfold lookup
    rw [hd]
  obtain ⟨hmem, rfl⟩ := mem_of_lookup hlookup
  have horderly := hr.sound.orderly_of_mem hmem
  have hrequired : ∀ f ∈ required, f.optional = false := fun f => horderly.of_mem_take
  have hoptional : ∀ f ∈ optional, f.optional = true := fun f => horderly.of_mem_drop
  have husage : d.usage = usage := usageLine_eq d.method hrequired hoptional
  have hhelp : r.helpText d.method = d.help := by
    unfold helpText
    rw [hlookup]
    rfl
  rw [hhelp]
  refine ⟨⟨hr.sound.required_eq hmem, hrequired, hoptional, ?_⟩, ⟨?_, ?_⟩, ?_,
    Descriptor.failsWith_help, Descriptor.help_of_undescribed, fun hmethod before f rest => ?_⟩
  · unfold usageText
    rw [hlookup, ← husage]
    rfl
  · rintro ⟨text, htext⟩
    by_contra hnot
    have hfails := Descriptor.failsWith_help hnot
    rw [htext] at hfails
    exact not_failsWith_ok hfails
  · intro h
    obtain ⟨_, _, _, htext, _⟩ := Descriptor.help_of_described h
    exact ⟨_, htext⟩
  · intro h
    obtain ⟨description, rows, hdescription, htext, hlength, hrows⟩ :=
      Descriptor.help_of_described h
    rw [husage] at htext
    exact ⟨description, rows, _, hdescription, htext, hlength, hrows⟩
  · exact Descriptor.help_of_undescribedParam hmethod

/-- A method with a required and an optional parameter. -/
theorem usage_help_layout_getBlock :
    let t := Catalog.getBlock
    let d := t.descriptor t.method t.flags
    let r := empty.add d
    r.Reachable ∧ r.descriptor? "getblock" = some d
      ∧ r.usageText "getblock" = .ok "getblock \"hash\" (verbosity=1)"
      ∧ ∃ text, r.helpText "getblock" = .ok text := by
  intro t d r
  have hr : r.Reachable := .single (by decide +kernel) (by decide)
  have hd : r.descriptor? "getblock" = some d := hr.sound.descriptor?_of_mem List.mem_cons_self
  have hdescribed : d.Described :=
    ⟨Option.some_ne_none _, List.forall_mem_cons.2 ⟨Option.some_ne_none _,
      List.forall_mem_singleton.2 (Option.some_ne_none _)⟩⟩
  obtain ⟨⟨_, _, _, husage⟩, hhelp, _⟩ := hr.usage_help_layout hd
  refine ⟨hr, hd, husage.trans (congrArg _ ?_), hhelp.2 hdescribed⟩
  decide +kernel

end Registry

end NodeRpc
