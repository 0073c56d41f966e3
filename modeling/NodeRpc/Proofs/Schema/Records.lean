import NodeRpc.Proofs.Outcome
import NodeRpc.Schema.Codec

/-!
# Records, member by member

A record is decoded from what stands under each declared key, if anything, and encoded as what each
member shows, if it shows anything.

* `Rule.slotOf`, `Members.decode_cons`   what a member holds, from what stands under its key;
* `Rule.shown`, `encodeSlot_eq`          what a member shows;
* `Members.shows_encode`                 an encoded record has what each member shows;
* `Members.decode_encode`                a record reads back when each member does.
-/

namespace NodeRpc

namespace Rule

variable {α : Type}

def slotOf (key : String) (decode : Json → Decoded α) (default : α) (rule : Rule) :
    Option Json → Decoded (rule.Slot α)
  | some v => decodeSlot decode v rule
  | none => missingSlot key default rule

def shown (encode : α → Json) (isBlank : α → Bool) : (rule : Rule) → rule.Slot α → Option Json
  | required, a => some (encode a)
  | defaulted, a => some (encode a)
  | elided, a => if isBlank a then none else some (encode a)
  | optional, o => o.map encode
  | lenient, o => o.map encode
  | nullable, o => some ((o.map encode).getD .null)

end Rule

theorem encodeSlot_eq {α : Type} (key : String) (encode : α → Json) (isBlank : α → Bool)
    (rule : Rule) (slot : rule.Slot α) :
    encodeSlot key encode isBlank rule slot
      = ((rule.shown encode isBlank slot).map (Prod.mk key)).toList := by
  cases rule with
  | required => rfl
  | defaulted => rfl
  | elided =>
    show (if isBlank slot then [] else [(key, encode slot)])
      = ((if isBlank slot then none else some (encode slot)).map (Prod.mk key)).toList
    split <;> rfl
  | optional => cases (slot : Option α) <;> rfl
  | lenient => cases (slot : Option α) <;> rfl
  | nullable => cases (slot : Option α) <;> rfl

namespace Members

variable {key : String} {rule : Rule} {schema : Schema} {rest : Members}

theorem decode_cons (given : List (String × Json)) :
    (cons key rule schema rest).decode given
      = (rule.slotOf key schema.decode schema.default (given.lookup key) >>= fun slot =>
          rest.decode given >>= fun more => .ok (slot, more)) := by
  rw [decode]
  cases given.lookup key <;> rfl

theorem encode_cons (v : (cons key rule schema rest).Val) :
    (cons key rule schema rest).encode v
      = ((rule.shown schema.encode schema.isBlank v.1).map (Prod.mk key)).toList
        ++ rest.encode v.2 := by
  rw [encode, encodeSlot_eq]

theorem mem_keys_of_mem_encode :
    (ms : Members) → (v : ms.Val) → (m : String × Json) → m ∈ ms.encode v → m.1 ∈ ms.keys
  | .nil, _, _, h => absurd h List.not_mem_nil
  | .cons key rule schema rest, v, m, h => by
    rw [encode_cons] at h
    rcases List.mem_append.1 h with h | h
    · obtain ⟨j, _, rfl⟩ := Option.map_eq_some_iff.1 (Option.mem_toList.1 h)
      exact List.mem_cons_self
    · exact List.mem_cons_of_mem _ (rest.mem_keys_of_mem_encode v.2 m h)

def ReadsBack : (ms : Members) → ms.Val → Prop
  | .nil, _ => True
  | .cons key rule schema rest, v =>
    rule.slotOf key schema.decode schema.default (rule.shown schema.encode schema.isBlank v.1)
      = .ok v.1 ∧ rest.ReadsBack v.2

/-- The members of an encoded record pass the check, whatever else is declared before them. -/
theorem check_encode : (ms : Members) → ms.keys.Nodup → (v : ms.Val) → ms.ReadsBack v →
    ∀ m ∈ ms.encode v, ms.check m = .ok ()
  | .nil, _, _, _, _, h => absurd h List.not_mem_nil
  | .cons key rule schema rest, hk, v, hv, m, h => by
    obtain ⟨hkey, hrest⟩ := List.nodup_cons.1 hk
    rw [encode_cons] at h
    rw [check]
    rcases List.mem_append.1 h with h | h
    · obtain ⟨j, hj, rfl⟩ := Option.map_eq_some_iff.1 (Option.mem_toList.1 h)
      have hslot : decodeSlot schema.decode j rule = .ok v.1 := by
        have hback := hv.1
        rw [hj] at hback
        exact hback
      rw [if_pos rfl, hslot]
      rfl
    · have hm := rest.mem_keys_of_mem_encode v.2 m h
      have hne : m.1 ≠ key := fun e => hkey (e ▸ hm)
      rw [if_neg hne]
      exact rest.check_encode hrest v.2 hv.2 m h

theorem lookup_append_of_not_mem {before after : List (String × Json)} {key : String}
    (h : ∀ m ∈ before, m.1 ≠ key) : (before ++ after).lookup key = after.lookup key := by
  induction before with
  | nil => rfl
  | cons m before ih =>
    obtain ⟨k, v⟩ := m
    have hk : (key == k) = false :=
      beq_eq_false_iff_ne.2 (Ne.symm (h (k, v) List.mem_cons_self))
    rw [List.cons_append, List.lookup_cons, hk]
    exact ih fun m hm => h m (List.mem_cons_of_mem _ hm)

theorem lookup_of_not_mem {given : List (String × Json)} {key : String}
    (h : ∀ m ∈ given, m.1 ≠ key) : given.lookup key = none := by
  have happend : (given ++ []).lookup key = none := lookup_append_of_not_mem h
  rw [List.append_nil] at happend
  exact happend

/-- Whether among given members each declared one stands as the record shows it. -/
def Shows : (ms : Members) → ms.Val → List (String × Json) → Prop
  | .nil, _, _ => True
  | .cons key rule schema rest, v, given =>
    given.lookup key = rule.shown schema.encode schema.isBlank v.1 ∧ rest.Shows v.2 given

theorem shows_append : (ms : Members) → ms.keys.Nodup → (v : ms.Val) →
    (before : List (String × Json)) → (∀ m ∈ before, m.1 ∉ ms.keys) →
      ms.Shows v (before ++ ms.encode v)
  | .nil, _, _, _, _ => trivial
  | .cons key rule schema rest, hk, v, before, hb => by
    obtain ⟨hkey, hrest⟩ := List.nodup_cons.1 hk
    have hother : ∀ m ∈ rest.encode v.2, m.1 ≠ key := fun m hm e =>
      hkey (e ▸ rest.mem_keys_of_mem_encode v.2 m hm)
    have hbefore : ∀ m ∈ before, m.1 ≠ key := fun m hm e =>
      hb m hm (e ▸ List.mem_cons_self)
    refine ⟨?_, ?_⟩
    · rw [lookup_append_of_not_mem hbefore, encode_cons]
      cases rule.shown schema.encode schema.isBlank v.1 with
      | none => exact lookup_of_not_mem hother
      | some j => exact List.lookup_cons_self
    -- The member's own entry joins those before the rest.
    · rw [encode_cons, ← List.append_assoc]
      apply rest.shows_append hrest v.2
      intro m hm
      rcases List.mem_append.1 hm with hm | hm
      · exact fun e => hb m hm (List.mem_cons_of_mem _ e)
      · obtain ⟨j, _, rfl⟩ := Option.map_eq_some_iff.1 (Option.mem_toList.1 hm)
        exact hkey

theorem shows_encode {ms : Members} (hk : ms.keys.Nodup) (v : ms.Val) : ms.Shows v (ms.encode v) :=
  ms.shows_append hk v [] fun _ hm => absurd hm List.not_mem_nil

/-- A record is decoded from members that show it when each of its members reads back. -/
theorem decode_of_shows {given : List (String × Json)} : (ms : Members) → (v : ms.Val) →
    ms.ReadsBack v → ms.Shows v given → ms.decode given = .ok v
  | .nil, _, _, _ => rfl
  | .cons key rule schema rest, v, hv, hs => by
    rw [decode_cons, hs.1, hv.1, rest.decode_of_shows v.2 hv.2 hs.2]
    rfl

theorem decode_encode {ms : Members} (hk : ms.keys.Nodup) {v : ms.Val} (hv : ms.ReadsBack v) :
    ms.decode (ms.encode v) = .ok v :=
  ms.decode_of_shows v hv (shows_encode hk v)

end Members

end NodeRpc
