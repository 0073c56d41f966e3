import NodeRpc.Proofs.Schema.Leaves

/-!
# Values read back

* `Schema.decode_encode`   a value of a regular schema decodes from its encoding, if its floats are
                           finite and the amounts in it survive.

Each shape has its own lemma; the theorem is one induction over schemas and members that only puts
them together.
-/

namespace NodeRpc

/-! ## Integers -/

theorem decodeInteger_encode {w : IntWidth} (n : Integer w) :
    decodeInteger w (Json.ofInteger n) = .ok n := by
  unfold decodeInteger Json.ofInteger JsonNumber.ofInteger
  dsimp only
  rw [Integer.ofInt?_value]

/-! ## Lists -/

theorem mapM_decode_encode {α : Type} {encode : α → Json} {decode : Json → Decoded α} {l : List α}
    (h : ∀ a ∈ l, decode (encode a) = .ok a) : (l.map encode).mapM decode = .ok l := by
  induction l with
  | nil => rfl
  | cons a l ih =>
    rw [List.map_cons, List.mapM_cons, h a List.mem_cons_self,
      ih fun b hb => h b (List.mem_cons_of_mem _ hb)]
    rfl

theorem forM_eq_ok {α ε : Type} {f : α → Except ε Unit} {l : List α} (h : ∀ a ∈ l, f a = .ok ()) :
    l.forM f = .ok () := by
  induction l with
  | nil => rfl
  | cons a l ih =>
    show (f a >>= fun _ => l.forM f) = .ok ()
    rw [h a List.mem_cons_self, ih fun b hb => h b (List.mem_cons_of_mem _ hb)]
    rfl

/-! ## Maps -/

theorem insertSorted_of_lt {α : Type} {key : String} {value : α} {entries : List (String × α)}
    (h : ∀ e ∈ entries, utf8 e.1 < utf8 key) :
    insertSorted key value entries = entries ++ [(key, value)] := by
  induction entries with
  | nil => rfl
  | cons e entries ih =>
    obtain ⟨k, v⟩ := e
    have hk : utf8 k < utf8 key := h (k, v) List.mem_cons_self
    rw [insertSorted, if_neg (List.lt_asymm hk), if_pos hk,
      ih fun d hd => h d (List.mem_cons_of_mem _ hd)]
    rfl

theorem decodeEntries_encode {α : Type} {encode : α → Json} {decode : Json → Decoded α}
    {entries : List (String × α)} (h : ∀ e ∈ entries, decode (encode e.2) = .ok e.2)
    {acc m : SortedMap α} (hm : m.entries = acc.entries ++ entries) :
    decodeEntries decode acc (entries.map fun e => (e.1, encode e.2)) = .ok m := by
  induction entries generalizing acc with
  | nil =>
    rw [List.append_nil] at hm
    rw [SortedMap.eq_of_entries hm]
    rfl
  | cons e entries ih =>
    obtain ⟨key, a⟩ := e
    have hlast : ∀ d ∈ acc.entries, utf8 d.1 < utf8 key := by
      have hasc := m.ascending
      rw [hm] at hasc
      intro d hd
      exact (List.pairwise_append.1 hasc).2.2 d hd (key, a) List.mem_cons_self
    have hnext : m.entries = (acc.insert key a).entries ++ entries := by
      show m.entries = insertSorted key a acc.entries ++ entries
      rw [insertSorted_of_lt hlast, hm, List.append_assoc]
      rfl
    rw [List.map_cons, decodeEntries, h (key, a) List.mem_cons_self]
    exact ih (fun d hd => h d (List.mem_cons_of_mem _ hd)) hnext

/-! ## Choices -/

theorem findChoice_get : {names : List String} → names.Nodup → (i : Fin names.length) →
    findChoice (names.get i) names = some i
  | [], _, i => i.elim0
  | name :: names, h, ⟨0, _⟩ => if_pos rfl
  | name :: names, h, ⟨i + 1, hi⟩ => by
    obtain ⟨hname, hnames⟩ := List.nodup_cons.1 h
    have hlt : i < names.length := Nat.lt_of_succ_lt_succ hi
    have hmem : names.get ⟨i, hlt⟩ ∈ names := List.get_mem names ⟨i, hlt⟩
    have hne : names.get ⟨i, hlt⟩ ≠ name := fun e => hname (e ▸ hmem)
    show (if names.get ⟨i, hlt⟩ = name then some 0
      else (findChoice (names.get ⟨i, hlt⟩) names).map Fin.succ) = _
    rw [if_neg hne, findChoice_get hnames ⟨i, hlt⟩]
    rfl

theorem decodeChoice_encode {first : String} {others : List String}
    (h : (first :: others).Nodup) (i : Fin (others.length + 1)) :
    decodeChoice first others (.string ((first :: others).get i)) = .ok i := by
  unfold decodeChoice
  dsimp only [decodeChoice.pick]
  rw [findChoice_get h i]

/-! ## Members -/

theorem Schema.eq_default_of_isBlank (s : Schema) (v : s.Val) (h : s.isBlank v = true) :
    v = s.default := by
  cases s with
  | string => exact String.isEmpty_iff.1 h
  | integer w => exact Integer.ext (beq_iff_eq.1 h)
  | list element => exact List.isEmpty_iff.1 h
  | any => cases h
  | boolean => cases h
  | float f => cases h
  | map value => cases h
  | choice name first others => cases h
  | union u => cases h
  | record name members => cases h

/-- A member reads back when its values do, and null is none of them where it means unset. -/
theorem Rule.slotOf_shown {key : String} {schema : Schema} {P : schema.Val → Prop}
    (h : ∀ a, P a → schema.decode (schema.encode a) = .ok a) (rule : Rule)
    (hnull : rule.unsets = true → schema.accepts .null = false) {slot : rule.Slot schema.Val}
    (hp : rule.Every P slot) :
    rule.slotOf key schema.decode schema.default (rule.shown schema.encode schema.isBlank slot)
      = .ok slot := by
  have hset : schema.accepts .null = false → ∀ a, P a →
      (if (schema.encode a).isNull then Except.ok none
        else (schema.decode (schema.encode a)).map some : Decoded (Option schema.Val))
        = .ok (some a) := by
    intro hn a ha
    rw [Schema.isNull_of_decode hn (h a ha), h a ha]
    rfl
  cases rule with
  | required => exact h slot hp
  | defaulted => exact h slot hp
  | elided =>
    rw [Rule.shown]
    split
    · rename_i hblank
      rw [schema.eq_default_of_isBlank slot hblank]
      rfl
    · exact h slot hp
  | optional =>
    cases (slot : Option schema.Val) with
    | none => rfl
    | some a => exact hset (hnull rfl) a (hp a rfl)
  | lenient =>
    cases (slot : Option schema.Val) with
    | none => rfl
    | some a => exact hset (hnull rfl) a (hp a rfl)
  | nullable =>
    cases (slot : Option schema.Val) with
    | none => rfl
    | some a => exact hset (hnull rfl) a (hp a rfl)

theorem Rule.every_and {α : Type} {P Q : α → Prop} (rule : Rule) {slot : rule.Slot α}
    (hp : rule.Every P slot) (hq : rule.Every Q slot) : rule.Every (fun a => P a ∧ Q a) slot := by
  cases rule with
  | required => exact ⟨hp, hq⟩
  | defaulted => exact ⟨hp, hq⟩
  | elided => exact ⟨hp, hq⟩
  | optional => exact fun a ha => ⟨hp a ha, hq a ha⟩
  | lenient => exact fun a ha => ⟨hp a ha, hq a ha⟩
  | nullable => exact fun a ha => ⟨hp a ha, hq a ha⟩

/-! ## All shapes -/

mutual

theorem Schema.decode_encode : (s : Schema) → s.regular = true → (v : s.Val) →
    s.FloatsFinite v → s.AmountsSurvive v → s.decode (s.encode v) = .ok v
  | .any, _, _, _, _ => rfl
  | .string, _, _, _, _ => rfl
  | .boolean, _, _, _, _ => rfl
  | .integer _, _, n, _, _ => decodeInteger_encode n
  | .float f, hs, x, hx, _ => by
    have hf : f = .double := of_decide_eq_true hs
    subst hf
    obtain ⟨y, hy⟩ : Binary.IsFinite x := hx
    subst hy
    rfl
  | .choice _ first others, hs, i, _, _ => decodeChoice_encode (of_decide_eq_true hs) i
  | .union u, hs, v, _, hv => u.decode_encode hs v hv
  | .list element, hs, l, hf, ha =>
    mapM_decode_encode fun a hmem => element.decode_encode hs a (hf a hmem) (ha a hmem)
  | .map value, hs, m, hf, ha => by
    show decodeEntries value.decode .empty _ = .ok m
    exact decodeEntries_encode (fun e he => value.decode_encode hs e.2 (hf e he) (ha e he)) rfl
  | .record name members, hs, v, hf, ha => by
    have hkeys := Schema.keys_nodup hs
    have hback := members.readsBack (Schema.members_regular hs) v hf ha
    show ((members.encode v).forM members.check >>= fun _ => members.decode (members.encode v)) = _
    rw [forM_eq_ok (members.check_encode hkeys v hback)]
    exact Members.decode_encode hkeys hback

theorem Members.readsBack : (ms : Members) → ms.regular = true → (v : ms.Val) →
    ms.Every Schema.FiniteLeaf v → ms.Every Schema.AmountLeaf v → ms.ReadsBack v
  | .nil, _, _, _, _ => trivial
  | .cons key rule schema rest, hs, v, hf, ha => by
    refine ⟨?_, rest.readsBack (Members.regular_rest hs) v.2 hf.2 ha.2⟩
    exact rule.slotOf_shown
      (fun a hp => schema.decode_encode (Members.regular_head hs) a hp.1 hp.2)
      (Members.accepts_null hs) (rule.every_and hf.1 ha.1)

end

end NodeRpc
