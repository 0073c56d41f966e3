import NodeRpc.Proofs.Number.Rounding
import NodeRpc.Proofs.Schema.Records
import NodeRpc.Proofs.Schema.Regular

/-!
# Properties of the leaves of a value

A value of a schema is a tree of lists, maps and records.  `Schema.Every P` says that `P` holds at
each of its leaves.

* `Schema.every_of_decode`  what decoding guarantees of a leaf it guarantees of every leaf;
* `Schema.FloatsFinite`     no float in the value is infinite or no number, as after decoding;
* `Schema.AmountsSurvive`   the amount of every payment in it reads back from its encoding.
-/

namespace NodeRpc

namespace Rule

variable {α : Type} {P : α → Prop}

def Every (P : α → Prop) : (r : Rule) → r.Slot α → Prop
  | required, a => P a
  | defaulted, a => P a
  | elided, a => P a
  | optional, o => ∀ a, o = some a → P a
  | lenient, o => ∀ a, o = some a → P a
  | nullable, o => ∀ a, o = some a → P a

theorem every_of_decodeSlot {decode : Json → Decoded α} (h : ∀ v a, decode v = .ok a → P a)
    (r : Rule) {v : Json} {slot : r.Slot α} (hd : decodeSlot decode v r = .ok slot) :
    r.Every P slot := by
  have hunset : ∀ o : Option α,
      (if v.isNull then Except.ok none else (decode v).map some : Decoded (Option α)) = .ok o →
      ∀ a, o = some a → P a := by
    rintro o ho a rfl
    split at ho
    · cases ho
    · obtain ⟨b, hb, heq⟩ := map_eq_ok.1 ho
      cases heq
      exact h v a hb
  cases r with
  | required => exact h v slot hd
  | defaulted => exact h v slot hd
  | elided => exact h v slot hd
  | optional => exact hunset slot hd
  | lenient => exact hunset slot hd
  | nullable => exact hunset slot hd

theorem every_of_missingSlot {key : String} {default : α} (h : P default) (r : Rule)
    {slot : r.Slot α} (hd : missingSlot key default r = .ok slot) : r.Every P slot := by
  cases r with
  | required => cases hd
  | defaulted => cases hd; exact h
  | elided => cases hd; exact h
  | optional => cases hd; rintro a ⟨⟩
  | lenient => cases hd; rintro a ⟨⟩
  | nullable => cases hd; rintro a ⟨⟩

theorem every_of_endedSlot {error : DecodeError} {default : α} (h : P default) (r : Rule)
    {slot : r.Slot α} (hd : endedSlot error default r = .ok slot) : r.Every P slot := by
  cases r with
  | required => cases hd
  | defaulted => cases hd; exact h
  | elided => cases hd; exact h
  | optional => cases hd
  | lenient => cases hd; rintro a ⟨⟩
  | nullable => cases hd

end Rule

/-! ## Every leaf -/

mutual

/-- Whether a property holds at every leaf of a value. -/
def Schema.Every (P : (s : Schema) → s.Val → Prop) : (s : Schema) → s.Val → Prop
  | .list element, v =>
    let items : List element.Val := v
    ∀ a ∈ items, element.Every P a
  | .map value, v => ∀ entry ∈ SortedMap.entries v, value.Every P entry.2
  | .record _ members, v => members.Every P v
  | .any, v => P .any v
  | .string, v => P .string v
  | .boolean, v => P .boolean v
  | .integer w, v => P (.integer w) v
  | .float f, v => P (.float f) v
  | .choice name first others, v => P (.choice name first others) v
  | .union u, v => P (.union u) v

def Members.Every (P : (s : Schema) → s.Val → Prop) : (ms : Members) → ms.Val → Prop
  | .nil, _ => True
  | .cons _ rule schema rest, v => rule.Every (schema.Every P) v.1 ∧ rest.Every P v.2

end

variable {P : (s : Schema) → s.Val → Prop}

mutual

theorem Schema.every_default (h : ∀ s, P s s.default) : (s : Schema) → s.Every P s.default
  | .list _ => fun _ ha => absurd ha List.not_mem_nil
  | .map _ => fun _ ha => absurd ha List.not_mem_nil
  | .record _ members => members.every_default h
  | .any => h .any
  | .string => h .string
  | .boolean => h .boolean
  | .integer w => h (.integer w)
  | .float f => h (.float f)
  | .choice name first others => h (.choice name first others)
  | .union u => h (.union u)

theorem Members.every_default (h : ∀ s, P s s.default) : (ms : Members) → ms.Every P ms.default
  | .nil => trivial
  | .cons _ .required schema rest => ⟨schema.every_default h, rest.every_default h⟩
  | .cons _ .defaulted schema rest => ⟨schema.every_default h, rest.every_default h⟩
  | .cons _ .elided schema rest => ⟨schema.every_default h, rest.every_default h⟩
  | .cons _ .optional _ rest => ⟨fun _ ha => (nomatch ha), rest.every_default h⟩
  | .cons _ .lenient _ rest => ⟨fun _ ha => (nomatch ha), rest.every_default h⟩
  | .cons _ .nullable _ rest => ⟨fun _ ha => (nomatch ha), rest.every_default h⟩

end

/-! ## What decoding gives -/

theorem exists_of_mem_mapM {α β : Type} {f : α → Decoded β} {items : List α} {l : List β}
    (h : items.mapM f = .ok l) {b : β} (hb : b ∈ l) : ∃ a ∈ items, f a = .ok b := by
  induction items generalizing l with
  | nil =>
    cases h
    cases hb
  | cons a items ih =>
    rw [List.mapM_cons] at h
    obtain ⟨c, hc, h⟩ := bind_eq_ok.1 h
    obtain ⟨cs, hcs, h⟩ := bind_eq_ok.1 h
    cases h
    rcases List.mem_cons.1 hb with rfl | hb
    · exact ⟨a, List.mem_cons_self, hc⟩
    · obtain ⟨a', ha', hf⟩ := ih hcs hb
      exact ⟨a', List.mem_cons_of_mem _ ha', hf⟩

theorem mem_insertSorted {α : Type} {key : String} {value : α} {entries : List (String × α)}
    {e : String × α} (h : e ∈ insertSorted key value entries) : e = (key, value) ∨ e ∈ entries := by
  induction entries with
  | nil => exact .inl (List.mem_singleton.1 h)
  | cons d rest ih =>
    obtain ⟨k, v⟩ := d
    unfold insertSorted at h
    split at h
    · exact List.mem_cons.1 h
    · split at h
      · rcases List.mem_cons.1 h with rfl | h
        · exact .inr List.mem_cons_self
        · exact (ih h).imp_right (List.mem_cons_of_mem _)
      · exact (List.mem_cons.1 h).imp_right (List.mem_cons_of_mem _)

theorem exists_of_mem_decodeEntries {α : Type} {decode : Json → Decoded α}
    {given : List (String × Json)} {acc m : SortedMap α}
    (h : decodeEntries decode acc given = .ok m) {e : String × α} (he : e ∈ m.entries) :
    e ∈ acc.entries ∨ ∃ g ∈ given, decode g.2 = .ok e.2 := by
  induction given generalizing acc with
  | nil =>
    cases h
    exact .inl he
  | cons g given ih =>
    obtain ⟨key, v⟩ := g
    obtain ⟨a, hv, h⟩ := bind_eq_ok.1 h
    rcases ih h with hacc | ⟨g, hg, hd⟩
    · rcases mem_insertSorted hacc with rfl | hacc
      · exact .inr ⟨(key, v), List.mem_cons_self, hv⟩
      · exact .inl hacc
    · exact .inr ⟨g, List.mem_cons_of_mem _ hg, hd⟩

mutual

/-- What decoding guarantees of a leaf, and defaults have, every leaf of a decoded value has. -/
theorem Schema.every_of_decode (hdefault : ∀ s, P s s.default)
    (hleaf : ∀ s j v, s.regular = true → s.decode j = .ok v → P s v) :
    (s : Schema) → s.regular = true → (j : Json) → (v : s.Val) → s.decode j = .ok v → s.Every P v
  | .any, hs, j, v, h => hleaf .any j v hs h
  | .string, hs, j, v, h => hleaf .string j v hs h
  | .boolean, hs, j, v, h => hleaf .boolean j v hs h
  | .integer w, hs, j, v, h => hleaf (.integer w) j v hs h
  | .float f, hs, j, v, h => hleaf (.float f) j v hs h
  | .choice name first others, hs, j, v, h => hleaf (.choice name first others) j v hs h
  | .union u, hs, j, v, h => hleaf (.union u) j v hs h
  | .list element, hs, j, v, h => by
    intro a ha
    cases j with
    | array items =>
      obtain ⟨b, _, hb⟩ := exists_of_mem_mapM (f := element.decode) h ha
      exact element.every_of_decode hdefault hleaf hs b a hb
    | _ => cases h
  | .map value, hs, j, v, h => by
    intro e he
    cases j with
    | object given =>
      change decodeEntries value.decode .empty given = .ok v at h
      rcases exists_of_mem_decodeEntries h he with hnil | ⟨g, _, hg⟩
      · cases hnil
      · exact value.every_of_decode hdefault hleaf hs g.2 e.2 hg
    | _ => cases h
  | .record name members, hs, j, v, h => by
    cases j with
    | object given =>
      obtain ⟨_, _, h⟩ := bind_eq_ok.1 h
      exact members.every_of_decode hdefault hleaf (Schema.members_regular hs) given v h
    | array items =>
      exact members.every_of_decodeItems hdefault hleaf (Schema.members_regular hs) name _ _ _ _ v h
    | _ => cases h

theorem Members.every_of_decode (hdefault : ∀ s, P s s.default)
    (hleaf : ∀ s j v, s.regular = true → s.decode j = .ok v → P s v) :
    (ms : Members) → ms.regular = true → (given : List (String × Json)) → (v : ms.Val) →
      ms.decode given = .ok v → ms.Every P v
  | .nil, _, _, _, _ => trivial
  | .cons key rule schema rest, hs, given, v, h => by
    have hschema := schema.every_of_decode hdefault hleaf (Members.regular_head hs)
    rw [Members.decode_cons] at h
    obtain ⟨slot, hslot, h⟩ := bind_eq_ok.1 h
    obtain ⟨more, hmore, h⟩ := bind_eq_ok.1 h
    cases h
    refine ⟨?_, rest.every_of_decode hdefault hleaf (Members.regular_rest hs) given more hmore⟩
    cases hj : given.lookup key with
    | some j =>
      rw [hj] at hslot
      exact rule.every_of_decodeSlot hschema hslot
    | none =>
      rw [hj] at hslot
      exact rule.every_of_missingSlot (schema.every_default hdefault) hslot

theorem Members.every_of_decodeItems (hdefault : ∀ s, P s s.default)
    (hleaf : ∀ s j v, s.regular = true → s.decode j = .ok v → P s v) :
    (ms : Members) → ms.regular = true → (name : String) → (length count index : Nat) →
      (items : List Json) → (v : ms.Val) →
      ms.decodeItems name length count index items = .ok v → ms.Every P v
  | .nil, _, _, _, _, _, _, _, _ => trivial
  | .cons key rule schema rest, hs, name, length, count, index, [], v, h => by
    obtain ⟨slot, hslot, h⟩ := bind_eq_ok.1 h
    obtain ⟨more, hmore, h⟩ := bind_eq_ok.1 h
    cases h
    refine ⟨rule.every_of_endedSlot (schema.every_default hdefault) hslot, ?_⟩
    exact rest.every_of_decodeItems hdefault hleaf (Members.regular_rest hs) _ _ _ _ _ more hmore
  | .cons key rule schema rest, hs, name, length, count, index, j :: items, v, h => by
    have hschema := schema.every_of_decode hdefault hleaf (Members.regular_head hs)
    obtain ⟨slot, hslot, h⟩ := bind_eq_ok.1 h
    obtain ⟨more, hmore, h⟩ := bind_eq_ok.1 h
    cases h
    refine ⟨rule.every_of_decodeSlot hschema hslot, ?_⟩
    exact rest.every_of_decodeItems hdefault hleaf (Members.regular_rest hs) _ _ _ _ _ more hmore

end

/-! ## Finite floats -/

namespace Schema

/-- A leaf that is no infinite float and no float that is no number. -/
def FiniteLeaf : (s : Schema) → s.Val → Prop
  | .float _, x => Binary.IsFinite x
  | _, _ => True

def FloatsFinite (s : Schema) (v : s.Val) : Prop := s.Every FiniteLeaf v

theorem finiteLeaf_default (s : Schema) : s.FiniteLeaf s.default := by
  cases s with
  | float f => exact Binary.isFinite_finite _
  | _ => trivial

theorem finiteLeaf_of_decode (s : Schema) (j : Json) (v : s.Val) (hs : s.regular = true)
    (h : s.decode j = .ok v) : s.FiniteLeaf v := by
  cases s with
  | float f =>
    have hf : f = .double := of_decide_eq_true hs
    subst hf
    cases j with
    | number n =>
      cases n with
      | integer i lo hi =>
        cases h
        exact Binary.isFinite_ofInt lo hi
      | float x =>
        cases h
        exact Binary.isFinite_finite x
    | _ => cases h
  | _ => trivial

/-- Decoded floats are finite: those in JSON text are, and so are the roundings of integers. -/
theorem floatsFinite_of_decode {s : Schema} (hs : s.regular = true) {j : Json} {v : s.Val}
    (h : s.decode j = .ok v) : s.FloatsFinite v :=
  s.every_of_decode finiteLeaf_default finiteLeaf_of_decode hs j v h

end Schema

/-! ## Amounts -/

/-- A leaf whose amount, if it is a payment, reads back. -/
def Schema.AmountLeaf : (s : Schema) → s.Val → Prop
  | .union u, v => u.Survives v
  | _, _ => True

def Schema.AmountsSurvive (s : Schema) (v : s.Val) : Prop := s.Every AmountLeaf v

mutual

/-- Whether payments occur in the values of a schema. -/
def Schema.pays : Schema → Bool
  | .list element => element.pays
  | .map value => value.pays
  | .record _ members => members.pays
  | .union u => u = .psbtOutput
  | _ => false

def Members.pays : Members → Bool
  | .nil => false
  | .cons _ _ schema rest => schema.pays || rest.pays

end

theorem Rule.every_of_forall {α : Type} {P : α → Prop} (h : ∀ a, P a) (r : Rule) (slot : r.Slot α) :
    r.Every P slot := by
  cases r with
  | required => exact h slot
  | defaulted => exact h slot
  | elided => exact h slot
  | optional => exact fun a _ => h a
  | lenient => exact fun a _ => h a
  | nullable => exact fun a _ => h a

mutual

theorem Schema.amountsSurvive_of_not_pays :
    (s : Schema) → s.pays = false → (v : s.Val) → s.AmountsSurvive v
  | .any, _, _ => trivial
  | .string, _, _ => trivial
  | .boolean, _, _ => trivial
  | .integer _, _, _ => trivial
  | .float _, _, _ => trivial
  | .choice _ _ _, _, _ => trivial
  | .union u, h, v => by
    have hu : u ≠ .psbtOutput := of_decide_eq_false h
    cases u with
    | psbtOutput => exact absurd rfl hu
    | _ => trivial
  | .list element, h, _ => fun a _ => element.amountsSurvive_of_not_pays h a
  | .map value, h, _ => fun e _ => value.amountsSurvive_of_not_pays h e.2
  | .record _ members, h, v => members.amountsSurvive_of_not_pays h v

theorem Members.amountsSurvive_of_not_pays :
    (ms : Members) → ms.pays = false → (v : ms.Val) → ms.Every Schema.AmountLeaf v
  | .nil, _, _ => trivial
  | .cons _ rule schema rest, h, v => by
    have hboth := Bool.or_eq_false_iff.1 h
    exact ⟨rule.every_of_forall (schema.amountsSurvive_of_not_pays hboth.1) v.1,
      rest.amountsSurvive_of_not_pays hboth.2 v.2⟩

end

end NodeRpc
