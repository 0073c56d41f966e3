import NodeRpc.Proofs.Command.Arguments
import NodeRpc.Proofs.Command.Decoding

/-!
# Arguments that fill slots, and the first that does not

Arguments are taken in order, and the first that its field does not take is reported.

* `Field.Rejects`         an argument that a field takes in none of the three ways;
* `Field.given`           the slot that any other argument fills;
* `coerceArgs_cases`      all arguments fill their slots, or the first that does not is named;
* `Field.reads_given`     a slot that was filled decodes.
-/

namespace NodeRpc

/-! ## One argument -/

namespace Field

variable {f : Field} {index : Nat} {v : Json}

/-- Whether a field takes an argument in no way: the argument does not leave it unset, it does not
stand for other JSON, and it is not accepted. -/
structure Rejects (f : Field) (v : Json) : Prop where
  filledBy : f.FilledBy v
  reread : f.reread? v = none
  accepts : f.accepts v = false

def given (f : Field) : Option Json → Option Json
  | none => none
  | some v => if f.optional && leavesUnset v then none else some ((f.reread? v).getD v)

theorem filledBy_of_not_unset (h : ¬ (f.optional && leavesUnset v) = true) : f.FilledBy v := by
  intro ho
  rw [ho, Bool.true_and, Bool.not_eq_true] at h
  exact h

theorem exists_text_of_reread {w : Json} (h : f.reread? v = some w) :
    ∃ text, v = .string text ∧ f.kind ≠ .string ∧ Json.ofText? text = some w
      ∧ f.accepts w = true := by
  obtain ⟨text, rfl⟩ : ∃ text, v = .string text := by
    by_contra hne
    rw [reread?_eq_none fun text ht => hne ⟨text, ht⟩] at h
    cases h
  have hkind : f.kind ≠ .string := by
    intro hkind
    have hnone : f.reread? (.string text) = none := if_pos hkind
    rw [hnone] at h
    cases h
  exact ⟨text, rfl, hkind, (reread?_eq_some hkind).1 h⟩

theorem accepts_getD_reread (hv : f.FilledBy v) (h : ¬ f.Rejects v) :
    f.accepts ((f.reread? v).getD v) = true := by
  cases hread : f.reread? v with
  | some w =>
    obtain ⟨_, _, _, _, haccepts⟩ := exists_text_of_reread hread
    exact haccepts
  | none =>
    show f.accepts v = true
    cases hacc : f.accepts v with
    | true => rfl
    | false => exact absurd ⟨hv, hread, hacc⟩ h

/-- An argument fills its slot, or it is rejected and named. -/
theorem coerce_cases (f : Field) (index : Nat) (v : Json) :
    (¬ f.Rejects v ∧ f.coerce index v = .ok (f.given (some v)))
    ∨ (f.Rejects v ∧ f.coerce index v = .error (.badArgument (f.ref index) v.kind)) := by
  by_cases hunset : (f.optional && leavesUnset v) = true
  · rw [given, if_pos hunset]
    rw [Bool.and_eq_true] at hunset
    refine .inl ⟨fun h => ?_, coerce_unset hunset.1 hunset.2⟩
    have hfilled := h.filledBy hunset.1
    rw [hunset.2] at hfilled
    cases hfilled
  have hfilled : f.FilledBy v := filledBy_of_not_unset hunset
  rw [given, if_neg hunset]
  cases hread : f.reread? v with
  | some w =>
    refine .inl ⟨fun h => ?_, coerce_reread hfilled hread⟩
    have hnone := h.reread
    rw [hread] at hnone
    cases hnone
  | none =>
    cases hacc : f.accepts v with
    | true =>
      refine .inl ⟨fun h => ?_, coerce_accepted hfilled hread hacc⟩
      have hfalse := h.accepts
      rw [hacc] at hfalse
      cases hfalse
    | false =>
      refine .inr ⟨⟨hfilled, hread, hacc⟩, ?_⟩
      unfold coerce
      rw [if_neg hunset, hread]
      exact if_neg (Bool.not_eq_true _ ▸ hacc)

theorem reads_given {arg : Option Json} (harg : f.optional = false → arg ≠ none)
    (h : ∀ v, arg = some v → ¬ f.Rejects v) : f.Reads (f.given arg) := by
  cases arg with
  | none =>
    have ho : f.optional ≠ false := fun ho => harg ho rfl
    exact (reads_unset (eq_true_of_ne_false ho)).1
  | some v =>
    rw [given]
    split
    · rename_i hunset
      rw [Bool.and_eq_true] at hunset
      exact (reads_unset hunset.1).1
    · rename_i hunset
      exact reads_of_accepts (accepts_getD_reread (filledBy_of_not_unset hunset) (h v rfl))

end Field

/-! ## All arguments -/

/-- All arguments fill their slots, or the first that does not is named. -/
theorem coerceArgs_cases (fields : List Field) (args : List Json) (index : Nat) :
    (coerceArgs index fields args = .ok (fields.mapIdx fun i f => f.given args[i]?)
      ∧ ∀ f v, (f, v) ∈ fields.zip args → ¬ f.Rejects v)
    ∨ ∃ i f v, FirstWhere Field.Rejects fields args i f v
      ∧ coerceArgs index fields args = .error (.badArgument (f.ref (index + i)) v.kind) := by
  induction fields generalizing args index with
  | nil => exact .inl ⟨rfl, fun _ _ h => (nomatch h)⟩
  | cons f fields ih =>
    rw [List.mapIdx_cons]
    cases args with
    | nil =>
      -- without arguments nothing is rejected
      rcases ih [] (index + 1) with ⟨hrest, _⟩ | ⟨i, g, w, hfirst, _⟩
      · refine .inl ⟨?_, fun _ _ h => (nomatch h)⟩
        show (coerceArgs (index + 1) fields [] >>= fun rest => pure (none :: rest)) = _
        rw [hrest]
        rfl
      · cases hfirst.here
    | cons v args =>
      rcases f.coerce_cases index v with ⟨hv, hslot⟩ | ⟨hv, herror⟩
      · rcases ih args (index + 1) with ⟨hrest, hall⟩ | ⟨i, g, w, hfirst, herror⟩
        · refine .inl ⟨?_, fun g w hmem => ?_⟩
          · exact bind_eq_ok.2 ⟨_, hslot, bind_eq_ok.2 ⟨_, hrest, rfl⟩⟩
          · rcases List.mem_cons.1 hmem with heq | hmem
            · cases heq
              exact hv
            · exact hall g w hmem
        · refine .inr ⟨i + 1, g, w, hfirst.tail hv, ?_⟩
          show (f.coerce index v >>= fun slot =>
            coerceArgs (index + 1) fields args >>= fun rest => pure (slot :: rest)) = _
          rw [hslot, herror, Nat.add_assoc, Nat.add_comm 1 i]
          rfl
      · refine .inr ⟨0, f, v, .head hv, ?_⟩
        show (f.coerce index v >>= fun slot =>
          coerceArgs (index + 1) fields args >>= fun rest => pure (slot :: rest)) = _
        rw [herror]
        rfl

end NodeRpc
