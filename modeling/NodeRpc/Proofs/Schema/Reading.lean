import NodeRpc.Proofs.Schema.Readers

/-!
# What is read is JSON

Reading by a schema takes exactly one value of the grammar, whatever the schema; and a record that
is read from an object is given none of its declared members twice.

* `Members.HasRead`              which members have been read;
* `Schema.record_eq_ok`          a record, from readers of its members and of its items;
* `Schema.read_sound`            every schema reads so;
* `Schema.ofBytes_repeated`      text that repeats a declared member is refused.
-/

namespace NodeRpc

open RawJson Reading

/-! ## Schemas

The first byte after the blanks decides how a value is read. -/

namespace Schema

variable {opened : Nat} {s : Bytes}

theorem read_string : Schema.string.read opened s = (match skipBlank s with
    | Byte.quote :: t => text t
    | t => Reading.refuse .string t : Reading (String × Bytes)) := rfl

theorem read_boolean : Schema.boolean.read opened s = (match skipBlank s with
    | 0x74 :: t => scalar boolean.decode (0x74 :: t)
    | 0x66 :: t => scalar boolean.decode (0x66 :: t)
    | t => Reading.refuse .boolean t : Reading (Bool × Bytes)) := rfl

theorem read_list {element : Schema} :
    (Schema.list element).read opened s = (match skipBlank s with
      | Byte.openArray :: t => do
        enter opened
        Reading.list (element.read (opened + 1)) t
      | t => Reading.refuse .sequence t : Reading (List element.Val × Bytes)) := rfl

theorem read_map {value : Schema} :
    (Schema.map value).read opened s = (match skipBlank s with
      | Byte.openObject :: t => do
        enter opened
        object (fun key (acc : SortedMap value.Val) s => do
          let (v, s) ← value.read (opened + 1) (← mark Byte.colon s)
          return (acc.insert key v, s)) SortedMap.empty t
      | t => Reading.refuse .map t : Reading (SortedMap value.Val × Bytes)) := rfl

theorem read_record {name : String} {ms : Members} :
    (record name ms).read opened s = (match skipBlank s with
      | Byte.openObject :: t => do
        enter opened
        let (slots, t) ← object (ms.readMember (opened + 1)) ms.unread t
        return (← ofDecoded (ms.finish slots), t)
      | Byte.openArray :: t => do
        enter opened
        ms.readItems name ms.count (opened + 1) 0 t
      | t => Reading.refuse (.record name) t : Reading (ms.Val × Bytes)) := rfl

end Schema

namespace Members

def HasRead : (ms : Members) → String → ms.Partial → Prop
  | nil, _, _ => False
  | cons key _ _ rest, given, slots =>
    if given = key then slots.1.isSome = true else rest.HasRead given slots.2

variable {key given : String} {rule : Rule} {schema : Schema} {rest : Members} {opened : Nat}
  {state state' : (cons key rule schema rest).Partial} {s s' : Bytes}

/-- A member is the first declared one, which is read if it has not been, or one of the rest. -/
theorem readMember_cons_eq_ok
    (h : (cons key rule schema rest).readMember opened given state s = .ok (state', s')) :
    (given = key ∧ state.1.isSome = false ∧ state'.1.isSome = true ∧ state'.2 = state.2
      ∧ ∃ s₁ slot, skipBlank s = Byte.colon :: s₁
        ∧ Reading.slot (schema.read opened) s₁ rule = .ok (slot, s'))
    ∨ (given ≠ key ∧ state'.1 = state.1
      ∧ rest.readMember opened given state.2 s = .ok (state'.2, s')) := by
  rw [readMember] at h
  split at h
  · rename_i hkey
    split at h
    · cases h
    · rename_i hunread
      obtain ⟨s₁, hcolon, h⟩ := bind_eq_ok.1 h
      obtain ⟨⟨slot, s₂⟩, hslot, h⟩ := bind_eq_ok.1 h
      cases h
      refine .inl ⟨hkey, Bool.eq_false_iff.2 hunread, rfl, rfl, s₁, slot, ?_, hslot⟩
      exact mark_eq_ok.1 hcolon
  · rename_i hkey
    obtain ⟨⟨more, s₂⟩, hmore, h⟩ := bind_eq_ok.1 h
    cases h
    exact .inr ⟨hkey, rfl, hmore⟩

theorem hasRead_self : (cons key rule schema rest).HasRead key state ↔ state.1.isSome = true := by
  rw [HasRead, if_pos rfl]

theorem hasRead_of_ne {other : String} (h : other ≠ key) :
    (cons key rule schema rest).HasRead other state ↔ rest.HasRead other state.2 := by
  rw [HasRead, if_neg h]

theorem readMember_cons_sound (hslot : Sound fun s => Reading.slot (schema.read opened) s rule)
    (hrest : SoundMember rest.keys rest.HasRead (rest.readMember opened)) :
    SoundMember (cons key rule schema rest).keys (cons key rule schema rest).HasRead
      ((cons key rule schema rest).readMember opened) := by
  intro given state s state' s' h
  obtain ⟨rfl, hunread, hread, hsame, s₁, slot, hcolon, hs⟩ | ⟨hkey, hsame, hmore⟩ :=
    readMember_cons_eq_ok h
  · obtain ⟨raw, hraw⟩ := hslot _ _ _ hs
    refine ⟨⟨s₁, raw, hcolon, hraw⟩, fun _ hseen => ?_, fun _ => hasRead_self.2 hread,
      fun other hseen => ?_⟩
    · rw [hasRead_self, hunread] at hseen
      cases hseen
    · by_cases hother : other = given
      · subst hother
        exact hasRead_self.2 hread
      · rw [hasRead_of_ne hother] at hseen ⊢
        rwa [hsame]
  · have hstep := hrest _ _ _ _ _ hmore
    have hmem : given ∈ key :: rest.keys → given ∈ rest.keys :=
      fun h => (List.mem_cons.1 h).resolve_left hkey
    refine ⟨hstep.takes, fun h hseen => ?_, fun h => ?_, fun other hseen => ?_⟩
    · exact hstep.unseen (hmem h) ((hasRead_of_ne hkey).1 hseen)
    · exact (hasRead_of_ne hkey).2 (hstep.sees (hmem h))
    · by_cases hother : other = key
      · subst hother
        rw [hasRead_self] at hseen ⊢
        rwa [hsame]
      · rw [hasRead_of_ne hother] at hseen ⊢
        exact hstep.keeps other hseen

end Members

theorem Schema.record_eq_ok {name : String} {ms : Members} {opened : Nat}
    (hmember : SoundMember ms.keys ms.HasRead (ms.readMember (opened + 1)))
    (hitems : ∀ s v rest, ms.readItems name ms.count (opened + 1) 0 s = .ok (v, rest) →
      ∃ raws, Continues true s raws rest)
    {s rest : Bytes} {v : ms.Val} (h : (record name ms).read opened s = .ok (v, rest)) :
    ∃ raw, Starts s raw rest
      ∧ ∀ raws, raw = .object raws → ∀ key ∈ ms.keys, timesGiven key raws ≤ 1 := by
  have h := read_record.symm.trans h
  split at h
  · rename_i s₁ hopened
    obtain ⟨_, _, h⟩ := bind_eq_ok.1 h
    obtain ⟨⟨slots, s₂⟩, hobject, h⟩ := bind_eq_ok.1 h
    obtain ⟨w, _, h⟩ := bind_eq_ok.1 h
    cases h
    obtain ⟨raws, hraws, htimes⟩ := object_eq_ok hmember hopened hobject
    refine ⟨_, hraws, fun raws' heq => ?_⟩
    cases heq
    exact htimes
  · rename_i s₁ hopened
    obtain ⟨_, _, h⟩ := bind_eq_ok.1 h
    obtain ⟨raws, hraws⟩ := hitems _ _ _ h
    exact ⟨_, hraws.starts hopened, fun raws' heq => by cases heq⟩
  · exact absurd h refuse_ne_ok

mutual

theorem Schema.read_sound : (s : Schema) → (opened : Nat) → Sound (s.read opened)
  | .any, opened => json_sound opened
  | .string, _ => by
    intro s v rest h
    have h := Schema.read_string.symm.trans h
    split at h
    · rename_i hquote
      obtain ⟨pieces, hread, _⟩ := text_eq_ok h
      exact ⟨_, starts_string hquote hread⟩
    · exact absurd h refuse_ne_ok
  | .boolean, _ => by
    intro s v rest h
    have h := Schema.read_boolean.symm.trans h
    split at h
    · rename_i hword
      obtain ⟨raw, hraw⟩ := scalar_sound _ _ _ _ h
      rw [← hword] at hraw
      exact ⟨raw, hraw.of_skipBlank⟩
    · rename_i hword
      obtain ⟨raw, hraw⟩ := scalar_sound _ _ _ _ h
      rw [← hword] at hraw
      exact ⟨raw, hraw.of_skipBlank⟩
    · exact absurd h refuse_ne_ok
  | .integer w, _ => number_sound (decodeInteger w) (.integer w)
  | .float f, _ => number_sound (decodeFloat f) (.float f)
  | .list element, opened => by
    intro s v rest h
    have h := Schema.read_list.symm.trans h
    split at h
    · rename_i hopened
      obtain ⟨_, _, h⟩ := bind_eq_ok.1 h
      exact list_eq_ok (element.read_sound (opened + 1)) hopened h
    · exact absurd h refuse_ne_ok
  | .map value, opened => by
    intro s v rest h
    have h := Schema.read_map.symm.trans h
    split at h
    · rename_i hopened
      obtain ⟨_, _, h⟩ := bind_eq_ok.1 h
      have hmember := soundMember_insert (value.read_sound (opened + 1))
      obtain ⟨raws, hraws, _⟩ := object_eq_ok hmember hopened h
      exact ⟨_, hraws⟩
    · exact absurd h refuse_ne_ok
  | .choice _ first others, opened => choice_sound first others opened
  | .union u, opened => by
    intro s v rest h
    obtain ⟨⟨j, rest'⟩, hjson, h⟩ := bind_eq_ok.1 h
    obtain ⟨w, _, h⟩ := bind_eq_ok.1 h
    cases h
    exact json_sound opened _ _ _ hjson
  | .record name ms, opened => by
    intro s v rest h
    obtain ⟨raw, hraw, _⟩ := Schema.record_eq_ok (ms.readMember_sound (opened + 1))
      (fun _ _ _ => ms.readItems_sound name ms.count (opened + 1) 0) h
    exact ⟨raw, hraw⟩

/-- Reading a member takes a value, and a declared one is read once. -/
theorem Members.readMember_sound : (ms : Members) → (opened : Nat) →
    SoundMember ms.keys ms.HasRead (ms.readMember opened)
  | .nil, _ => fun key state s state' rest h => by
    obtain ⟨s₁, hcolon, h⟩ := bind_eq_ok.1 h
    obtain ⟨s₂, hskip, h⟩ := bind_eq_ok.1 h
    cases h
    obtain ⟨raw, hraw⟩ := skip_eq_ok hskip
    exact .of_takes ⟨s₁, raw, mark_eq_ok.1 hcolon, hraw⟩
  | .cons key rule schema rest, opened =>
    Members.readMember_cons_sound (slot_sound (schema.read_sound opened) rule)
      (rest.readMember_sound opened)

theorem Members.readItems_sound (name : String) (count : Nat) : (ms : Members) → (opened : Nat) →
    (index : Nat) → {s rest : Bytes} → {v : ms.Val} →
      ms.readItems name count opened index s = .ok (v, rest) →
        ∃ raws, Continues (index == 0) s raws rest
  | .nil, _, _, s, rest, _, h => by
    rw [Members.readItems] at h
    obtain ⟨s₁, hclosed, h⟩ := bind_eq_ok.1 h
    cases h
    exact ⟨[], .inl ⟨rfl, mark_eq_ok.1 hclosed⟩⟩
  | .cons _ rule schema rest, opened, index, s, _, _, h => by
    rw [Members.readItems] at h
    obtain ⟨next, hnext, h⟩ := bind_eq_ok.1 h
    cases next with
    | some t =>
      obtain ⟨⟨slot, s₁⟩, hslot, h⟩ := bind_eq_ok.1 h
      obtain ⟨⟨more, s₂⟩, hmore, h⟩ := bind_eq_ok.1 h
      cases h
      obtain ⟨raw, hraw⟩ := slot_sound (schema.read_sound opened) rule _ _ _ hslot
      obtain ⟨raws, hraws⟩ := rest.readItems_sound name count opened (index + 1) hmore
      exact ⟨raw :: raws, .inr ⟨t, hnext, hraws.cons hraw⟩⟩
    | none =>
      obtain ⟨slot, _, h⟩ := bind_eq_ok.1 h
      obtain ⟨⟨more, s₂⟩, hmore, h⟩ := bind_eq_ok.1 h
      cases h
      obtain ⟨u, hclosed⟩ := nextItem?_ended hnext
      obtain ⟨raws, ⟨rfl, hraws⟩ | ⟨t, ht, _⟩⟩ :=
        rest.readItems_sound name count opened (index + 1) hmore
      · exact ⟨[], .inl ⟨rfl, hraws⟩⟩
      · rw [nextItem?_closed hclosed] at ht
        cases ht

end

/-! ## Text -/

namespace Schema

theorem ofBytes_eq_ok {s : Schema} {bytes : Bytes} {v : s.Val} (h : s.ofBytes bytes = .ok v) :
    ∃ rest, s.read 0 bytes = .ok (v, rest) ∧ skipBlank rest = [] := by
  obtain ⟨⟨w, rest⟩, hread, h⟩ := bind_eq_ok.1 h
  dsimp only at h
  split at h
  · rename_i hblank
    cases h
    exact ⟨rest, hread, List.isEmpty_iff.1 hblank⟩
  · cases h

/-- Text that repeats a declared member is refused. -/
theorem ofBytes_repeated {name key : String} {ms : Members} {bytes rest : Bytes}
    {given : List (List RawPiece × RawJson)}
    (hobject : RawJson.read bytes = some (.object given, rest)) (hkey : key ∈ ms.keys)
    (htimes : 1 < timesGiven key given) : ∃ e, (record name ms).ofBytes bytes = .error e := by
  cases h : (record name ms).ofBytes bytes with
  | error e => exact ⟨e, rfl⟩
  | ok v =>
    obtain ⟨rest', hread, _⟩ := ofBytes_eq_ok h
    obtain ⟨raw, hraw, honce⟩ := record_eq_ok (ms.readMember_sound 1)
      (fun _ _ _ => ms.readItems_sound name ms.count 1 0) hread
    rw [← read_eq_some, hobject] at hraw
    cases hraw
    exact absurd htimes (Nat.not_lt.2 (honce given rfl key hkey))

end Schema

end NodeRpc
