import NodeRpc.Proofs.Schema.Acceptance

/-!
# One object for each record

Many objects are decoded to one record.  Their members may stand in any order, and some of them say
nothing: those that are not declared, null where it leaves a member unset, and a blank where blanks
are left out.  The encoded record is one of these objects, with its members in declared order.

* `Members.Idle`                    a given member that says nothing;
* `Schema.decode_object_of_perm`    neither order nor idle members matter to what is decoded;
* `Members.keys_encode_sublist`     an encoded record has its members in declared order.
-/

namespace NodeRpc

/-! ## Members that say nothing -/

/-- How a value that says nothing is written: an empty text or list, or the integer zero. -/
def Schema.Blank : Schema → Json → Prop
  | .string, v => v = .string ""
  | .integer w, v => v = .ofInteger (Integer.zero : Integer w)
  | .list _, v => v = .array []
  | _, _ => False

theorem Schema.decode_of_blank {v : Json} : (s : Schema) → s.Blank v → s.decode v = .ok s.default
  | .string, h => by
    subst h
    rfl
  | .integer w, h => by
    subst h
    exact decodeInteger_encode Integer.zero
  | .list _, h => by
    subst h
    rfl

/-- Whether a member's value means what the member's absence does: null leaves it unset, or it is
blank and blanks are left out. -/
def Rule.Spares (rule : Rule) (schema : Schema) (v : Json) : Prop :=
  rule.unsets = true ∧ v = .null ∨ rule = .elided ∧ schema.Blank v

theorem Rule.slotOf_of_spares {key : String} {rule : Rule} {schema : Schema} {v : Json}
    (h : rule.Spares schema v) :
    rule.slotOf key schema.decode schema.default (some v)
      = rule.slotOf key schema.decode schema.default none := by
  rcases h with ⟨hunsets, rfl⟩ | ⟨rfl, hblank⟩
  · cases rule with
    | required => cases hunsets
    | defaulted => cases hunsets
    | elided => cases hunsets
    | optional => rfl
    | lenient => rfl
    | nullable => rfl
  · exact schema.decode_of_blank hblank

namespace Members

variable {given spared rest : List (String × Json)}

/-- Whether a given member says nothing: it is not declared, or its value means what its absence
does. -/
def Idle : Members → String × Json → Prop
  | nil, _ => True
  | cons key rule schema rest, m => (m.1 = key → rule.Spares schema m.2) ∧ rest.Idle m

theorem idle_of_not_mem : (ms : Members) → (m : String × Json) → m.1 ∉ ms.keys → ms.Idle m
  | nil, _, _ => trivial
  | cons _ _ _ rest, m, h =>
    ⟨fun heq => absurd (heq ▸ List.mem_cons_self) h,
      rest.idle_of_not_mem m fun hmem => h (List.mem_cons_of_mem _ hmem)⟩

/-- An idle member that no other one repeats makes no difference. -/
theorem decode_of_idle : (ms : Members) → (m : String × Json) → ms.Idle m →
    (∀ d ∈ given, d.1 ≠ m.1) → ms.decode (m :: given) = ms.decode given
  | nil, _, _, _ => rfl
  | cons key rule schema rest, m, h, hm => by
    have hslot : rule.slotOf key schema.decode schema.default ((m :: given).lookup key)
        = rule.slotOf key schema.decode schema.default (given.lookup key) := by
      by_cases hkey : m.1 = key
      · have hgiven : given.lookup key = none := lookup_of_not_mem (hkey ▸ hm)
        obtain ⟨k, v⟩ := m
        cases hkey
        rw [List.lookup_cons_self, hgiven, Rule.slotOf_of_spares (h.1 rfl)]
      · have hne : (key == m.1) = false := beq_eq_false_iff_ne.2 (Ne.symm hkey)
        rw [List.lookup_cons, hne]
    rw [decode_cons, decode_cons, hslot, rest.decode_of_idle m h.2 hm]

theorem decode_append_of_idle (ms : Members) (h : ((spared ++ rest).map Prod.fst).Nodup)
    (hidle : ∀ m ∈ spared, ms.Idle m) : ms.decode (spared ++ rest) = ms.decode rest := by
  induction spared with
  | nil => rfl
  | cons m spared ih =>
    obtain ⟨hm, hspared⟩ := List.forall_mem_cons.1 hidle
    obtain ⟨hkey, hkeys⟩ := List.nodup_cons.1 h
    have hothers : ∀ d ∈ spared ++ rest, d.1 ≠ m.1 := fun d hd e =>
      hkey (e ▸ List.mem_map_of_mem hd)
    rw [List.cons_append, ms.decode_of_idle m hm hothers, ih hkeys hspared]

end Members

/-! ## Order -/

theorem lookup_perm {given given' : List (String × Json)} (hp : given.Perm given')
    (h : (given.map Prod.fst).Nodup) (key : String) : given.lookup key = given'.lookup key := by
  have h' : (given'.map Prod.fst).Nodup := (hp.map Prod.fst).nodup_iff.1 h
  by_cases hmem : ∃ m ∈ given, m.1 = key
  · obtain ⟨m, hm, rfl⟩ := hmem
    rw [lookup_of_mem h hm, lookup_of_mem h' (hp.subset hm)]
  · have hnone : ∀ m ∈ given, m.1 ≠ key := fun m hm e => hmem ⟨m, hm, e⟩
    rw [Members.lookup_of_not_mem hnone,
      Members.lookup_of_not_mem fun m hm => hnone m (hp.symm.subset hm)]

/-- An object is decoded as what is left of it without some idle members, in any order. -/
theorem Schema.decode_object_of_perm {name : String} {ms : Members} {v : ms.Val}
    {given spared rest : List (String × Json)} (h : (given.map Prod.fst).Nodup)
    (hp : given.Perm (spared ++ rest)) (hidle : ∀ m ∈ spared, ms.Idle m) :
    (record name ms).decode (.object given) = Except.ok (ε := DecodeError) v ↔
      (record name ms).decode (.object rest) = Except.ok (ε := DecodeError) v := by
  have hboth : ((spared ++ rest).map Prod.fst).Nodup := (hp.map Prod.fst).nodup_iff.1 h
  have hrest : (rest.map Prod.fst).Nodup :=
    hboth.sublist ((List.sublist_append_right spared rest).map Prod.fst)
  rw [decode_object_of_nodup h, decode_object_of_nodup hrest,
    ms.decode_congr fun key _ => lookup_perm hp h key, ms.decode_append_of_idle hboth hidle]

/-! ## What is written -/

theorem Members.keys_encode_sublist :
    (ms : Members) → (v : ms.Val) → ((ms.encode v).map Prod.fst).Sublist ms.keys
  | .nil, _ => List.nil_sublist _
  | .cons key rule schema rest, v => by
    have hrest := rest.keys_encode_sublist v.2
    rw [encode_cons, List.map_append]
    cases rule.shown schema.encode schema.isBlank v.1 with
    | none => exact hrest.cons key
    | some j => exact hrest.cons_cons key

end NodeRpc
