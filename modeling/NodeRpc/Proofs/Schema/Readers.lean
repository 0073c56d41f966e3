import NodeRpc.Proofs.Json.Grammar
import NodeRpc.Proofs.Outcome
import NodeRpc.Schema.Reader

/-!
# Readers

What the readers do that schemas are made of, whatever they are given to read their parts: they take
a value of the grammar if these do.

* `Reading.Sound`, `Reading.SoundMember`   what a reader of values and one of members must do;
* `Reading.items_eq_ok`                    the elements of a list that such a reader takes;
* `Reading.members_eq_ok`                  the members of an object, and how often a key can have
                                           been given.
-/

namespace NodeRpc

namespace Reading

open RawJson

/-! ## Single values -/

theorem ofOption_eq_ok {α : Type} {o : Option α} {a : α} : ofOption o = .ok a ↔ o = some a := by
  cases o with
  | none => exact ⟨fun h => (nomatch h), fun h => (nomatch h)⟩
  | some b =>
    show Except.ok b = Except.ok a ↔ some b = some a
    rw [Except.ok.injEq, Option.some.injEq]

theorem refuse_ne_ok {α : Type} {expected : Expected} {s : Bytes} {a : α} :
    refuse expected s ≠ .ok a := by
  intro h
  unfold refuse at h
  split at h
  · cases h
  · cases h
  · split at h <;> cases h

theorem mark_eq_ok {b : UInt8} {s rest : Bytes} :
    mark b s = .ok rest ↔ skipBlank s = b :: rest := by
  unfold mark
  split
  · rename_i c t heq
    rw [heq]
    split
    · rename_i hc
      rw [hc, Except.ok.injEq, List.cons.injEq, eq_self, true_and]
    · rename_i hc
      exact ⟨fun h => (nomatch h), fun h => absurd (List.cons.inj h).1 hc⟩
  · rename_i heq
    rw [heq]
    exact ⟨fun h => (nomatch h), fun h => (nomatch h)⟩

theorem text_eq_ok {s rest : Bytes} {t : String} (h : text s = .ok (t, rest)) :
    ∃ pieces, RawString.read s = some (pieces, rest) ∧ RawString.toString? pieces = some t := by
  obtain ⟨⟨pieces, rest'⟩, hread, h⟩ := bind_eq_ok.1 h
  obtain ⟨t', ht, h⟩ := bind_eq_ok.1 h
  cases h
  exact ⟨pieces, ofOption_eq_ok.1 hread, ofOption_eq_ok.1 ht⟩

theorem skip_eq_ok {s rest : Bytes} (h : skip s = .ok rest) : ∃ raw, Starts s raw rest := by
  obtain ⟨⟨raw, rest'⟩, hread, rfl⟩ := map_eq_ok.1 h
  exact ⟨raw, read_eq_some.1 (ofOption_eq_ok.1 hread)⟩

/-- Whether a reader takes a value of the grammar when it succeeds. -/
def Sound {α : Type} (one : Bytes → Reading (α × Bytes)) : Prop :=
  ∀ s a rest, one s = .ok (a, rest) → ∃ raw, Starts s raw rest

section Sound

variable {α : Type} {one : Bytes → Reading (α × Bytes)}

theorem json_sound (opened : Nat) : Sound (json opened) := by
  intro s v rest h
  obtain ⟨⟨raw, rest'⟩, hread, h⟩ := Option.bind_eq_some_iff.1 (ofOption_eq_ok.1 h)
  dsimp only at h
  split at h
  · obtain ⟨v', _, h⟩ := Option.bind_eq_some_iff.1 h
    cases h
    exact ⟨raw, read_eq_some.1 hread⟩
  · cases h

theorem scalar_sound (decode : Json → Decoded α) : Sound (scalar decode) := by
  intro s a rest h
  obtain ⟨⟨v, rest'⟩, hjson, h⟩ := bind_eq_ok.1 h
  obtain ⟨a', _, h⟩ := bind_eq_ok.1 h
  cases h
  exact json_sound 0 s v rest hjson

theorem number_sound (decode : Json → Decoded α) (expected : Expected) :
    Sound (number decode expected) := by
  intro s a rest h
  unfold number at h
  dsimp only at h
  split at h
  · obtain ⟨raw, hraw⟩ := scalar_sound decode _ a rest h
    exact ⟨raw, hraw.of_skipBlank⟩
  · exact absurd h refuse_ne_ok

theorem unset?_sound (h : Sound one) : Sound (slot.unset? one) := by
  intro s a rest hslot
  unfold slot.unset? at hslot
  split at hslot
  · rename_i s' heq
    obtain ⟨⟨v, rest'⟩, hjson, hmap⟩ := map_eq_ok.1 hslot
    cases hmap
    obtain ⟨raw, hraw⟩ := json_sound 0 _ v rest hjson
    rw [← heq] at hraw
    exact ⟨raw, hraw.of_skipBlank⟩
  · obtain ⟨⟨b, rest'⟩, hone, hmap⟩ := map_eq_ok.1 hslot
    cases hmap
    obtain ⟨raw, hraw⟩ := h _ b rest hone
    exact ⟨raw, hraw.of_skipBlank⟩

theorem slot_sound (h : Sound one) : (rule : Rule) → Sound fun s => slot one s rule
  | .required => h
  | .defaulted => h
  | .elided => h
  | .optional => unset?_sound h
  | .lenient => unset?_sound h
  | .nullable => unset?_sound h

end Sound

/-! ## Lists -/

/-- Whether bytes go on with the elements of a list and its end: `first` if they stand after the
opening bracket, else after an element. -/
def Continues (first : Bool) (s : Bytes) (raws : List RawJson) (rest : Bytes) : Prop :=
  raws = [] ∧ skipBlank s = Byte.closeArray :: rest
    ∨ ∃ t, nextItem? first s = .ok (some t) ∧ ItemsStart t raws rest

section Lists

variable {α : Type} {s s₁ t rest : Bytes} {raws : List RawJson}

theorem nextItem?_first (h : nextItem? true s = .ok (some t)) :
    t = skipBlank s ∧ ∀ u, skipBlank s ≠ Byte.closeArray :: u := by
  unfold nextItem? at h
  split at h
  · cases h
  · rename_i b u hnot heq
    cases h
    refine ⟨heq.symm, fun v hv => ?_⟩
    rw [hv] at heq
    exact hnot (List.cons.inj heq).1.symm
  · cases h

theorem nextItem?_later (h : nextItem? false s = .ok (some t)) : skipBlank s = Byte.comma :: t := by
  unfold nextItem? at h
  split at h
  · cases h
  · rename_i b u _ heq
    rw [if_neg Bool.false_ne_true] at h
    split at h
    · rename_i hcomma
      cases h
      rw [heq, hcomma]
    · cases h
  · cases h

theorem nextItem?_ended {first : Bool} (h : nextItem? first s = .ok none) :
    ∃ u, skipBlank s = Byte.closeArray :: u := by
  unfold nextItem? at h
  split at h
  · rename_i u heq
    exact ⟨u, heq⟩
  · split at h
    · cases h
    · split at h <;> cases h
  · cases h

theorem nextItem?_closed {first : Bool} (h : skipBlank s = Byte.closeArray :: rest) :
    nextItem? first s = .ok none := by
  unfold nextItem?
  rw [h]
  rfl

theorem Continues.cons {item : RawJson} (start : Starts s item s₁)
    (next : Continues false s₁ raws rest) : ItemsStart s (item :: raws) rest := by
  obtain ⟨rfl, closed⟩ | ⟨t, ht, hraws⟩ := next
  · exact .last start closed
  · exact .more start (nextItem?_later ht) hraws

theorem Continues.starts (opened : skipBlank s = Byte.openArray :: s₁)
    (h : Continues true s₁ raws rest) : Starts s (.array raws) rest := by
  obtain ⟨rfl, closed⟩ | ⟨t, ht, hraws⟩ := h
  · exact .emptyArray opened closed
  · obtain ⟨rfl, hnot⟩ := nextItem?_first ht
    exact .array opened hnot hraws

theorem items_eq_ok {one : Bytes → Reading (α × Bytes)} (hone : Sound one) {fuel : Nat}
    {values : List α} (h : items one fuel s = .ok (values, rest)) :
    ∃ raws, ItemsStart s raws rest := by
  induction fuel generalizing s values with
  | zero => cases h
  | succ fuel ih =>
    rw [items] at h
    obtain ⟨⟨a, s₁⟩, ha, h⟩ := bind_eq_ok.1 h
    obtain ⟨raw, hraw⟩ := hone _ _ _ ha
    dsimp only at h
    split at h
    · rename_i heq
      cases h
      exact ⟨[raw], .last hraw heq⟩
    · rename_i heq
      obtain ⟨⟨more, rest'⟩, hmore, h⟩ := bind_eq_ok.1 h
      cases h
      obtain ⟨raws, hraws⟩ := ih hmore
      exact ⟨raw :: raws, .more hraw heq hraws⟩
    · cases h

theorem list_eq_ok {one : Bytes → Reading (α × Bytes)} (hone : Sound one) {values : List α}
    (opened : skipBlank s = Byte.openArray :: s₁) (h : list one s₁ = .ok (values, rest)) :
    ∃ raw, Starts s raw rest := by
  unfold list at h
  split at h
  · rename_i closed
    cases h
    exact ⟨_, .emptyArray opened closed⟩
  · rename_i hnot
    obtain ⟨raws, hraws⟩ := items_eq_ok hone h
    exact ⟨_, .array opened (fun t ht => hnot t ht) hraws⟩

end Lists

/-! ## Objects -/

def timesGiven (key : String) (raws : List (List RawPiece × RawJson)) : Nat :=
  (raws.map fun m => RawString.toString? m.1).count (some key)

theorem timesGiven_cons {key given : String} {pieces : List RawPiece} {raw : RawJson}
    {raws : List (List RawPiece × RawJson)} (h : RawString.toString? pieces = some given) :
    timesGiven key ((pieces, raw) :: raws)
      = timesGiven key raws + if given = key then 1 else 0 := by
  unfold timesGiven
  rw [List.map_cons, List.count_cons, h]
  simp only [beq_iff_eq, Option.some.injEq]

/-- What a step that reads a member does: it takes a colon and a value of the grammar; and it finds
a declared key unseen and leaves it seen, and with it all that was seen before. -/
structure ReadsMember {σ : Type} (declared : List String) (seen : String → σ → Prop) (key : String)
    (state : σ) (s : Bytes) (state' : σ) (rest : Bytes) : Prop where
  takes : ∃ s' raw, skipBlank s = Byte.colon :: s' ∧ Starts s' raw rest
  unseen : key ∈ declared → ¬ seen key state
  sees : key ∈ declared → seen key state'
  keeps : ∀ other, seen other state → seen other state'

def SoundMember {σ : Type} (declared : List String) (seen : String → σ → Prop)
    (one : String → σ → Bytes → Reading (σ × Bytes)) : Prop :=
  ∀ key state s state' rest, one key state s = .ok (state', rest) →
    ReadsMember declared seen key state s state' rest

/-- Whether declared keys are given once at most, and those that were seen before not at all. -/
def GivenOnce {σ : Type} (declared : List String) (seen : String → σ → Prop) (state : σ)
    (raws : List (List RawPiece × RawJson)) : Prop :=
  ∀ key ∈ declared, timesGiven key raws ≤ 1 ∧ (seen key state → timesGiven key raws = 0)

section Objects

variable {σ : Type} {declared : List String} {seen : String → σ → Prop}
  {one : String → σ → Bytes → Reading (σ × Bytes)} {state state' : σ} {s s₁ rest : Bytes}
  {raws : List (List RawPiece × RawJson)}

/-- Where every key may be given again, none is declared and none counts as seen. -/
theorem ReadsMember.of_takes {key : String}
    (htakes : ∃ s' raw, skipBlank s = Byte.colon :: s' ∧ Starts s' raw rest) :
    ReadsMember [] (fun _ _ => False) key state s state' rest where
  takes := htakes
  unseen hkey := nomatch hkey
  sees hkey := nomatch hkey
  keeps _ hseen := hseen

theorem soundMember_insert {α : Type} {value : Bytes → Reading (α × Bytes)} (h : Sound value) :
    SoundMember [] (fun _ _ => False) fun key (acc : SortedMap α) s => do
      let (a, s) ← value (← mark Byte.colon s)
      return (acc.insert key a, s) := by
  intro key acc s acc' rest hone
  obtain ⟨s', hcolon, hone⟩ := bind_eq_ok.1 hone
  obtain ⟨⟨a, rest'⟩, ha, hone⟩ := bind_eq_ok.1 hone
  cases hone
  obtain ⟨raw, hraw⟩ := h _ _ _ ha
  exact .of_takes ⟨s', raw, mark_eq_ok.1 hcolon, hraw⟩

theorem givenOnce_nil : GivenOnce declared seen state [] :=
  fun _ _ => ⟨Nat.zero_le 1, fun _ => rfl⟩

/-- A member that is read adds to the count of its own key only, which was not seen and is given no
more. -/
theorem ReadsMember.givenOnce {given : String} {pieces : List RawPiece} {raw : RawJson}
    (hstep : ReadsMember declared seen given state s state' rest)
    (hgiven : RawString.toString? pieces = some given)
    (hraws : GivenOnce declared seen state' raws) :
    GivenOnce declared seen state ((pieces, raw) :: raws) := by
  intro key hkey
  obtain ⟨hle, hzero⟩ := hraws key hkey
  rw [timesGiven_cons hgiven]
  by_cases heq : given = key
  · subst heq
    rw [if_pos rfl, hzero (hstep.sees hkey)]
    exact ⟨Nat.le_refl _, fun hseen => absurd hseen (hstep.unseen hkey)⟩
  · rw [if_neg heq]
    exact ⟨hle, fun hseen => hzero (hstep.keeps key hseen)⟩

theorem members_eq_ok (hone : SoundMember declared seen one) {fuel : Nat}
    (h : members one fuel state s = .ok (state', rest)) :
    ∃ raws, MembersStart s raws rest ∧ GivenOnce declared seen state raws := by
  induction fuel generalizing state s with
  | zero => cases h
  | succ fuel ih =>
    rw [members] at h
    obtain ⟨s₁, hquote, h⟩ := bind_eq_ok.1 h
    obtain ⟨⟨given, s₂⟩, htext, h⟩ := bind_eq_ok.1 h
    obtain ⟨⟨next, s₄⟩, hnext, h⟩ := bind_eq_ok.1 h
    obtain ⟨pieces, hread, hgiven⟩ := text_eq_ok htext
    have hstep := hone _ _ _ _ _ hnext
    obtain ⟨s₃, raw, hcolon, hraw⟩ := hstep.takes
    dsimp only at h
    split at h
    · rename_i hclosed
      cases h
      refine ⟨_, .last (mark_eq_ok.1 hquote) hread hcolon hraw hclosed, ?_⟩
      exact hstep.givenOnce hgiven givenOnce_nil
    · rename_i hcomma
      obtain ⟨raws, hraws, htimes⟩ := ih h
      refine ⟨_, .more (mark_eq_ok.1 hquote) hread hcolon hraw hcomma hraws, ?_⟩
      exact hstep.givenOnce hgiven htimes
    · cases h

theorem object_eq_ok (hone : SoundMember declared seen one)
    (opened : skipBlank s = Byte.openObject :: s₁) (h : object one state s₁ = .ok (state', rest)) :
    ∃ raws, Starts s (.object raws) rest ∧ ∀ key ∈ declared, timesGiven key raws ≤ 1 := by
  unfold object at h
  split at h
  · rename_i closed
    cases h
    exact ⟨[], .emptyObject opened closed, fun _ _ => Nat.zero_le 1⟩
  · rename_i hnot
    obtain ⟨raws, hraws, htimes⟩ := members_eq_ok hone h
    exact ⟨raws, .object opened (fun t ht => hnot t ht) hraws, fun key hkey => (htimes key hkey).1⟩

end Objects

/-! ## Choices -/

theorem choice_sound (first : String) (others : List String) (opened : Nat) :
    Sound (choice first others opened) := by
  intro s i rest h
  unfold choice at h
  split at h
  · rename_i s₁ hquote
    obtain ⟨⟨word, s₂⟩, htext, h⟩ := bind_eq_ok.1 h
    obtain ⟨j, _, h⟩ := bind_eq_ok.1 h
    cases h
    obtain ⟨pieces, hread, _⟩ := text_eq_ok htext
    exact ⟨_, starts_string hquote hread⟩
  · rename_i s₁ hopened
    obtain ⟨_, _, h⟩ := bind_eq_ok.1 h
    split at h
    · rename_i s₂ hquote
      obtain ⟨⟨word, s₃⟩, htext, h⟩ := bind_eq_ok.1 h
      obtain ⟨j, _, h⟩ := bind_eq_ok.1 h
      obtain ⟨s₄, hcolon, h⟩ := bind_eq_ok.1 h
      obtain ⟨pieces, hread, _⟩ := text_eq_ok htext
      dsimp only at h
      split at h
      · obtain ⟨⟨v, s₅⟩, hjson, h⟩ := bind_eq_ok.1 h
        obtain ⟨s₆, hclosed, h⟩ := bind_eq_ok.1 h
        cases h
        obtain ⟨raw, hraw⟩ := json_sound 0 _ v s₅ hjson
        refine ⟨_, .object hopened (fun t ht => ?_) (.last ?_ hread (mark_eq_ok.1 hcolon)
          hraw.of_skipBlank (mark_eq_ok.1 hclosed))⟩
        · rw [hquote] at ht
          cases ht
        · exact (skipBlank_skipBlank _).trans hquote
      · exact absurd h refuse_ne_ok
    · cases h
  · cases h

end Reading

end NodeRpc
