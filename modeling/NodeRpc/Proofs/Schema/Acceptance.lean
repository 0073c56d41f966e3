import NodeRpc.Proofs.Schema.RoundTrip

/-!
# What decodes

When a value decodes, said by the value's form: a word for a choice, and for a record its members.

* `decodeChoice_eq_ok`               a choice is a word, or an object with the word as its one key;
* `Schema.decode_object_eq_ok`       a record from an object: every given member that is declared
                                     decodes, and so does what stands under each declared key;
* `Schema.decode_object_of_nodup`    where no key is given twice, the second says it all;
* `Schema.decode_array_eq_ok`        a list is read as the object of its items under the declared
                                     keys, where its end means the same as a missing member.
-/

namespace NodeRpc

/-! ## Choices -/

theorem get_of_findChoice {word : String} :
    {names : List String} → {i : Fin names.length} → findChoice word names = some i →
      names.get i = word
  | [], _, h => nomatch h
  | name :: names, i, h => by
    change (if word = name then some 0 else (findChoice word names).map Fin.succ) = some i at h
    split at h
    · rename_i heq
      cases h
      exact heq.symm
    · obtain ⟨j, hj, rfl⟩ := Option.map_eq_some_iff.1 h
      have hget : names.get j = word := get_of_findChoice hj
      exact hget

theorem pick_eq_ok {first word : String} {others : List String} (h : (first :: others).Nodup)
    {i : Fin (others.length + 1)} :
    decodeChoice.pick first others word = .ok i ↔ word = (first :: others).get i := by
  unfold decodeChoice.pick
  constructor
  · intro hpick
    split at hpick
    · rename_i j hj
      cases hpick
      exact (get_of_findChoice hj).symm
    · cases hpick
  · rintro rfl
    rw [findChoice_get h i]

/-- A choice is one of the words, or an object with the word as its one key, which holds null. -/
theorem decodeChoice_eq_ok {first : String} {others : List String} (h : (first :: others).Nodup)
    {v : Json} {i : Fin (others.length + 1)} :
    decodeChoice first others v = .ok i ↔
      v = .string ((first :: others).get i) ∨ v = .object [((first :: others).get i, .null)] := by
  constructor
  · intro hv
    unfold decodeChoice at hv
    split at hv
    · rw [(pick_eq_ok h).1 hv]
      exact .inl rfl
    · rename_i word j
      obtain ⟨k, hk, hv⟩ := bind_eq_ok.1 hv
      split at hv
      · rename_i hnull
        cases hv
        rw [(pick_eq_ok h).1 hk, Json.isNull_iff.1 hnull]
        exact .inr rfl
      · cases hv
    · cases hv
    · cases hv
  · have hpick := (pick_eq_ok h (i := i)).2 rfl
    rintro (rfl | rfl)
    · exact hpick
    · exact bind_eq_ok.2 ⟨i, hpick, rfl⟩

/-! ## Lists and texts -/

theorem Schema.decode_string_eq_ok {v : Json} {text : String} :
    Schema.string.decode v = Except.ok (ε := DecodeError) text ↔ v = .string text := by
  cases v with
  | string s =>
    constructor
    · intro h
      cases h
      rfl
    · intro h
      cases h
      rfl
  | _ => exact ⟨fun h => (nomatch h), fun h => (nomatch h)⟩

theorem Schema.encode_any_list (items : List Json) :
    (Schema.list .any).encode items = .array items := by
  show Json.array (List.map (id : Json → Json) items) = _
  rw [List.map_id]

theorem Schema.decode_any_list_eq_ok {v : Json} {items : List Json} :
    (Schema.list .any).decode v = Except.ok (ε := DecodeError) items ↔ v = .array items := by
  have hitems : ∀ l : List Json, (Schema.list .any).decode (.array l)
      = Except.ok (ε := DecodeError) l := by
    intro l
    have hback := (Schema.list .any).decode_encode rfl l (fun _ _ => trivial) fun _ _ => trivial
    rwa [encode_any_list] at hback
  constructor
  · intro h
    cases v with
    | array l =>
      have heq := (hitems l).symm.trans h
      cases heq
      rfl
    | _ => cases h
  · rintro rfl
    exact hitems items

theorem forM_eq_ok_iff {α ε : Type} {f : α → Except ε Unit} {l : List α} :
    l.forM f = .ok () ↔ ∀ a ∈ l, f a = .ok () := by
  refine ⟨fun h => ?_, forM_eq_ok⟩
  induction l with
  | nil => exact fun _ ha => (nomatch ha)
  | cons a l ih =>
    obtain ⟨_, ha, hl⟩ := bind_eq_ok.1 h
    exact List.forall_mem_cons.2 ⟨ha, ih hl⟩

/-! ## Records from objects -/

namespace Members

variable {key : String} {rule : Rule} {schema : Schema} {rest : Members}
  {given : List (String × Json)}

theorem decode_cons_eq_ok {v : (cons key rule schema rest).Val} :
    (cons key rule schema rest).decode given = .ok v ↔
      rule.slotOf key schema.decode schema.default (given.lookup key) = .ok v.1
        ∧ rest.decode given = .ok v.2 := by
  rw [decode_cons]
  constructor
  · intro h
    obtain ⟨slot, hslot, h⟩ := bind_eq_ok.1 h
    obtain ⟨more, hmore, h⟩ := bind_eq_ok.1 h
    cases h
    exact ⟨hslot, hmore⟩
  · rintro ⟨hslot, hmore⟩
    exact bind_eq_ok.2 ⟨_, hslot, bind_eq_ok.2 ⟨_, hmore, rfl⟩⟩

theorem check_self {v : Json} :
    (cons key rule schema rest).check (key, v) = .ok ()
      ↔ ∃ slot, decodeSlot schema.decode v rule = .ok slot := by
  rw [check, if_pos rfl]
  constructor
  · intro h
    obtain ⟨slot, hslot, _⟩ := bind_eq_ok.1 h
    exact ⟨slot, hslot⟩
  · rintro ⟨slot, hslot⟩
    exact bind_eq_ok.2 ⟨slot, hslot, rfl⟩

theorem check_of_ne {m : String × Json} (h : m.1 ≠ key) :
    (cons key rule schema rest).check m = rest.check m := by
  rw [check, if_neg h]

/-- Whether a given member decodes as each declared one that has its key. -/
def Passes : Members → String × Json → Prop
  | nil, _ => True
  | cons key rule schema rest, m =>
    (m.1 = key → ∃ slot, decodeSlot schema.decode m.2 rule = .ok slot) ∧ rest.Passes m

theorem passes_of_not_mem : (ms : Members) → (m : String × Json) → m.1 ∉ ms.keys → ms.Passes m
  | nil, _, _ => trivial
  | cons _ _ _ rest, m, h =>
    ⟨fun heq => absurd (heq ▸ List.mem_cons_self) h,
      rest.passes_of_not_mem m fun hmem => h (List.mem_cons_of_mem _ hmem)⟩

/-- With distinct declared keys the check is of the one member that has the key, if there is one. -/
theorem check_eq_ok : (ms : Members) → ms.keys.Nodup → (m : String × Json) →
    (ms.check m = .ok () ↔ ms.Passes m)
  | nil, _, _ => ⟨fun _ => trivial, fun _ => rfl⟩
  | cons key rule schema rest, hk, m => by
    obtain ⟨hkey, hkeys⟩ := List.nodup_cons.1 hk
    by_cases h : m.1 = key
    · obtain ⟨k, v⟩ := m
      cases h
      rw [check_self]
      exact ⟨fun hslot => ⟨fun _ => hslot, rest.passes_of_not_mem _ hkey⟩, fun hp => hp.1 rfl⟩
    · rw [check_of_ne h, rest.check_eq_ok hkeys m]
      exact ⟨fun hp => ⟨fun heq => absurd heq h, hp⟩, And.right⟩

theorem check_of_decode : (ms : Members) → (v : ms.Val) → ms.decode given = .ok v →
    (m : String × Json) → given.lookup m.1 = some m.2 → ms.check m = .ok ()
  | .nil, _, _, _, _ => rfl
  | .cons key rule schema rest, v, h, m, hm => by
    obtain ⟨hslot, hmore⟩ := decode_cons_eq_ok.1 h
    by_cases hkey : m.1 = key
    · obtain ⟨k, j⟩ := m
      cases hkey
      rw [hm] at hslot
      exact check_self.2 ⟨v.1, hslot⟩
    · rw [check_of_ne hkey]
      exact rest.check_of_decode v.2 hmore m hm

end Members

theorem lookup_of_mem {given : List (String × Json)} (h : (given.map Prod.fst).Nodup)
    {m : String × Json} (hm : m ∈ given) : given.lookup m.1 = some m.2 := by
  obtain ⟨before, after, rfl⟩ := List.append_of_mem hm
  rw [List.map_append, List.map_cons] at h
  have hbefore : ∀ d ∈ before, d.1 ≠ m.1 := fun d hd =>
    (List.nodup_append.1 h).2.2 d.1 (List.mem_map_of_mem hd) m.1 List.mem_cons_self
  rw [Members.lookup_append_of_not_mem hbefore]
  exact List.lookup_cons_self

namespace Schema

variable {name : String} {ms : Members} {given : List (String × Json)} {v : ms.Val}

/-- A record is decoded from an object when every given member that is declared decodes, and every
declared member does from what stands under its key. -/
theorem decode_object_eq_ok :
    (record name ms).decode (.object given) = Except.ok (ε := DecodeError) v ↔
      (∀ m ∈ given, ms.check m = .ok ()) ∧ ms.decode given = .ok v := by
  show (given.forM ms.check >>= fun _ => ms.decode given) = .ok v ↔ _
  rw [← forM_eq_ok_iff]
  constructor
  · intro h
    obtain ⟨_, hall, hv⟩ := bind_eq_ok.1 h
    exact ⟨hall, hv⟩
  · rintro ⟨hall, hv⟩
    exact bind_eq_ok.2 ⟨(), hall, hv⟩

theorem decode_object_of_nodup (h : (given.map Prod.fst).Nodup) :
    (record name ms).decode (.object given) = Except.ok (ε := DecodeError) v ↔
      ms.decode given = .ok v := by
  rw [decode_object_eq_ok]
  refine ⟨And.right, fun hv => ⟨fun m hm => ?_, hv⟩⟩
  exact ms.check_of_decode v hv m (lookup_of_mem h hm)

end Schema

/-! ## Records from lists -/

namespace Rule

variable {α : Type} {decode : Json → Decoded α} {default : α} {rule : Rule}

def itemOf (error : DecodeError) (decode : Json → Decoded α) (default : α) (rule : Rule) :
    Option Json → Decoded (rule.Slot α)
  | some v => decodeSlot decode v rule
  | none => endedSlot error default rule

/-- Whether the end of a list means for a member what its absence in an object does. -/
def endsAsMissing : Rule → Bool
  | optional => false
  | nullable => false
  | _ => true

theorem itemOf_eq_ok (h : rule.endsAsMissing = true) (error : DecodeError) (key : String)
    {item : Option Json} {slot : rule.Slot α} :
    rule.itemOf error decode default item = .ok slot
      ↔ rule.slotOf key decode default item = .ok slot := by
  cases item with
  | some v => exact Iff.rfl
  | none =>
    cases rule with
    | required => exact ⟨fun h => (nomatch h), fun h => (nomatch h)⟩
    | defaulted => exact Iff.rfl
    | elided => exact Iff.rfl
    | lenient => exact Iff.rfl
    | optional => cases h
    | nullable => cases h

end Rule

namespace Members

def endAsMissing : Members → Bool
  | nil => true
  | cons _ rule _ rest => rule.endsAsMissing && rest.endAsMissing

variable {key name : String} {rule : Rule} {schema : Schema} {rest : Members}
  {length count index : Nat} {items : List Json}

theorem decode_congr {given given' : List (String × Json)} :
    (ms : Members) → (∀ key ∈ ms.keys, given.lookup key = given'.lookup key) →
      ms.decode given = ms.decode given'
  | nil, _ => rfl
  | cons key rule schema rest, h => by
    obtain ⟨hkey, hrest⟩ := List.forall_mem_cons.1 h
    rw [decode_cons, decode_cons, hkey, rest.decode_congr hrest]

theorem decodeItems_cons_eq_ok {v : (cons key rule schema rest).Val} :
    (cons key rule schema rest).decodeItems name length count index items = .ok v ↔
      rule.itemOf (.invalidLength index (.members name count)) schema.decode schema.default
          items.head? = .ok v.1
        ∧ rest.decodeItems name length count (index + 1) items.tail = .ok v.2 := by
  have hstep : (cons key rule schema rest).decodeItems name length count index items
      = (rule.itemOf (.invalidLength index (.members name count)) schema.decode schema.default
          items.head? >>= fun slot =>
            rest.decodeItems name length count (index + 1) items.tail >>= fun more =>
              .ok (slot, more)) := by
    cases items <;> rfl
  rw [hstep]
  constructor
  · intro h
    obtain ⟨slot, hslot, h⟩ := bind_eq_ok.1 h
    obtain ⟨more, hmore, h⟩ := bind_eq_ok.1 h
    cases h
    exact ⟨hslot, hmore⟩
  · rintro ⟨hslot, hmore⟩
    exact bind_eq_ok.2 ⟨_, hslot, bind_eq_ok.2 ⟨_, hmore, rfl⟩⟩

/-- Items are decoded as members under the declared keys, if there are not too many of them. -/
theorem decodeItems_eq_ok : (ms : Members) → ms.keys.Nodup → ms.endAsMissing = true →
    (index : Nat) → (items : List Json) → {v : ms.Val} →
      (ms.decodeItems name length count index items = .ok v
        ↔ items.length ≤ ms.count ∧ ms.decode (ms.keys.zip items) = .ok v)
  | nil, _, _, _, [], _ => ⟨fun _ => ⟨Nat.le_refl _, rfl⟩, fun _ => rfl⟩
  | nil, _, _, _, _ :: _, _ => ⟨fun h => (nomatch h), fun h => absurd h.1 (Nat.not_succ_le_zero _)⟩
  | cons key rule schema rest, hk, he, index, items, v => by
    obtain ⟨hkey, hkeys⟩ := List.nodup_cons.1 hk
    obtain ⟨hrule, hends⟩ := Bool.and_eq_true_iff.1 he
    have hlookup : ((key :: rest.keys).zip items).lookup key = items.head? := by
      cases items with
      | nil => rfl
      | cons item items => exact List.lookup_cons_self
    have hrest : rest.decode ((key :: rest.keys).zip items)
        = rest.decode (rest.keys.zip items.tail) := by
      apply rest.decode_congr
      intro other hother
      have hne : (other == key) = false := beq_eq_false_iff_ne.2 fun e => hkey (e ▸ hother)
      cases items with
      | nil =>
        rw [List.tail_nil, List.zip_nil_right, List.zip_nil_right]
      | cons item items =>
        rw [List.zip_cons_cons, List.lookup_cons, hne]
        rfl
    have hlength : items.length ≤ (cons key rule schema rest).count
        ↔ items.tail.length ≤ rest.count := by
      rw [List.length_tail]
      exact Nat.sub_le_iff_le_add.symm
    rw [decodeItems_cons_eq_ok, rule.itemOf_eq_ok hrule _ key,
      rest.decodeItems_eq_ok hkeys hends (index + 1) items.tail, decode_cons_eq_ok]
    show _ ↔ _ ∧ rule.slotOf key _ _ (((key :: rest.keys).zip items).lookup key) = _
      ∧ rest.decode ((key :: rest.keys).zip items) = _
    rw [hlookup, hrest, hlength, and_left_comm]

end Members

theorem map_fst_zip_sublist {α β : Type} (keys : List α) (items : List β) :
    ((keys.zip items).map Prod.fst).Sublist keys := by
  induction keys generalizing items with
  | nil => exact List.nil_sublist _
  | cons key keys ih =>
    cases items with
    | nil => exact List.nil_sublist _
    | cons item items => exact (ih items).cons_cons key

/-- A list is read as the object of its items under the declared keys, if it is not too long. -/
theorem Schema.decode_array_eq_ok {name : String} {ms : Members} (hk : ms.keys.Nodup)
    (he : ms.endAsMissing = true) {items : List Json} {v : ms.Val} :
    (record name ms).decode (.array items) = Except.ok (ε := DecodeError) v ↔
      items.length ≤ ms.count ∧ (record name ms).decode (.object (ms.keys.zip items))
        = Except.ok (ε := DecodeError) v := by
  have hnodup : ((ms.keys.zip items).map Prod.fst).Nodup := (map_fst_zip_sublist _ _).nodup hk
  rw [decode_object_of_nodup hnodup]
  exact ms.decodeItems_eq_ok hk he 0 items

end NodeRpc
