import Mathlib.Data.List.Basic
import Mathlib.Data.List.DropRight
import Mathlib.Data.List.TakeDrop
import NodeRpc.Proofs.Json.Strings

/-!
# The grammar without fuel

`RawJson.Starts` is the grammar of values as a relation: which bytes start with a value, and what is
left after it.  The reader of the grammar carries fuel, which never decides what is read:

* `RawJson.starts_of_fuel`        what is read with some fuel is there;
* `RawJson.Starts.stable`         what is there is read with all fuel from some bound on, which
                                  depends on the number of bytes it takes;
* `RawJson.read_eq_some`          so `RawJson.read` finds exactly the values that are there.
-/

namespace NodeRpc

/-! ## Lengths -/

namespace RawNumber

theorem length_le_of_readDigits {s digits rest : Bytes} (h : readDigits s = some (digits, rest)) :
    rest.length ≤ s.length := by
  unfold readDigits at h
  rw [List.span_eq_takeWhile_dropWhile] at h
  split at h
  · cases h
  · rename_i digits' rest' _ heq
    cases h
    cases heq
    exact (List.dropWhile_suffix _).length_le

theorem length_le_of_readWhole {s digits rest : Bytes} (h : readWhole s = some (digits, rest)) :
    rest.length ≤ s.length := by
  unfold readWhole at h
  split at h
  · cases h
  · exact length_le_of_readDigits h

theorem length_le_of_readFraction {s rest : Bytes} {fraction : Option Bytes}
    (h : readFraction s = some (fraction, rest)) : rest.length ≤ s.length := by
  unfold readFraction at h
  split at h
  · obtain ⟨⟨digits, rest'⟩, hread, h⟩ := Option.map_eq_some_iff.1 h
    cases h
    exact Nat.le_succ_of_le (length_le_of_readDigits hread)
  · cases h
    exact Nat.le_refl _

theorem length_le_of_readExponent {s rest : Bytes} {exponent : Option (Bool × Bytes)}
    (h : readExponent s = some (exponent, rest)) : rest.length ≤ s.length := by
  unfold readExponent at h
  split at h
  · split at h
    · split at h <;>
      · obtain ⟨⟨digits, rest'⟩, hread, h⟩ := Option.map_eq_some_iff.1 h
        cases h
        have hle := length_le_of_readDigits hread
        simp only [List.length_cons]
        omega
    · cases h
      exact Nat.le_refl _
  · cases h
    exact Nat.le_refl _

theorem length_le_of_readUnsigned {negative : Bool} {s rest : Bytes} {n : RawNumber}
    (h : readUnsigned negative s = some (n, rest)) : rest.length ≤ s.length := by
  obtain ⟨⟨whole, s₁⟩, hwhole, h⟩ := Option.bind_eq_some_iff.1 h
  obtain ⟨⟨fraction, s₂⟩, hfraction, h⟩ := Option.bind_eq_some_iff.1 h
  obtain ⟨⟨exponent, s₃⟩, hexponent, h⟩ := Option.bind_eq_some_iff.1 h
  cases h
  exact Nat.le_trans (length_le_of_readExponent hexponent)
    (Nat.le_trans (length_le_of_readFraction hfraction) (length_le_of_readWhole hwhole))

theorem length_le_of_read {s rest : Bytes} {n : RawNumber} (h : read s = some (n, rest)) :
    rest.length ≤ s.length := by
  unfold read at h
  split at h
  · exact Nat.le_succ_of_le (length_le_of_readUnsigned h)
  · exact length_le_of_readUnsigned h

end RawNumber

namespace RawJson

theorem length_le_of_word? {word s rest : Bytes} (h : word? word s = some rest) :
    rest.length ≤ s.length := by
  have happend : word ++ rest = s := List.append_eq_of_isPrefixOf?_eq_some h
  rw [← happend, List.length_append]
  exact Nat.le_add_left _ _

theorem length_le_of_readScalar {s rest : Bytes} {raw : RawJson}
    (h : readScalar s = some (raw, rest)) : rest.length ≤ s.length := by
  unfold readScalar at h
  split at h
  · obtain ⟨⟨pieces, rest'⟩, hread, h⟩ := Option.map_eq_some_iff.1 h
    cases h
    have hlt := RawString.width_lt_of_read hread
    simp only [List.length_cons]
    omega
  · split at h
    · rename_i hword
      cases h
      exact length_le_of_word? hword
    split at h
    · rename_i hword
      cases h
      exact length_le_of_word? hword
    split at h
    · rename_i hword
      cases h
      exact length_le_of_word? hword
    obtain ⟨⟨n, rest'⟩, hread, h⟩ := Option.map_eq_some_iff.1 h
    cases h
    exact RawNumber.length_le_of_read hread

/-! ## The grammar -/

mutual

/-- Whether bytes start with a value, and what is left after it. -/
inductive Starts : Bytes → RawJson → Bytes → Prop
  | scalar {s rest : Bytes} {raw : RawJson}
    (notArray : ∀ t, skipBlank s ≠ Byte.openArray :: t)
    (notObject : ∀ t, skipBlank s ≠ Byte.openObject :: t)
    (read : readScalar (skipBlank s) = some (raw, rest)) : Starts s raw rest
  | emptyArray {s s₁ rest : Bytes} (opened : skipBlank s = Byte.openArray :: s₁)
    (closed : skipBlank s₁ = Byte.closeArray :: rest) : Starts s (array []) rest
  | array {s s₁ rest : Bytes} {items : List RawJson}
    (opened : skipBlank s = Byte.openArray :: s₁)
    (notClosed : ∀ t, skipBlank s₁ ≠ Byte.closeArray :: t)
    (start : ItemsStart (skipBlank s₁) items rest) : Starts s (array items) rest
  | emptyObject {s s₁ rest : Bytes} (opened : skipBlank s = Byte.openObject :: s₁)
    (closed : skipBlank s₁ = Byte.closeObject :: rest) : Starts s (object []) rest
  | object {s s₁ rest : Bytes} {members : List (List RawPiece × RawJson)}
    (opened : skipBlank s = Byte.openObject :: s₁)
    (notClosed : ∀ t, skipBlank s₁ ≠ Byte.closeObject :: t)
    (start : MembersStart (skipBlank s₁) members rest) : Starts s (object members) rest

inductive ItemsStart : Bytes → List RawJson → Bytes → Prop
  | last {s s₁ rest : Bytes} {item : RawJson} (start : Starts s item s₁)
    (closed : skipBlank s₁ = Byte.closeArray :: rest) : ItemsStart s [item] rest
  | more {s s₁ s₂ rest : Bytes} {item : RawJson} {items : List RawJson}
    (start : Starts s item s₁) (comma : skipBlank s₁ = Byte.comma :: s₂)
    (next : ItemsStart s₂ items rest) : ItemsStart s (item :: items) rest

inductive MembersStart : Bytes → List (List RawPiece × RawJson) → Bytes → Prop
  | last {s s₁ s₂ s₃ s₄ rest : Bytes} {key : List RawPiece} {value : RawJson}
    (quote : skipBlank s = Byte.quote :: s₁) (read : RawString.read s₁ = some (key, s₂))
    (colon : skipBlank s₂ = Byte.colon :: s₃) (start : Starts s₃ value s₄)
    (closed : skipBlank s₄ = Byte.closeObject :: rest) : MembersStart s [(key, value)] rest
  | more {s s₁ s₂ s₃ s₄ s₅ rest : Bytes} {key : List RawPiece} {value : RawJson}
    {members : List (List RawPiece × RawJson)}
    (quote : skipBlank s = Byte.quote :: s₁) (read : RawString.read s₁ = some (key, s₂))
    (colon : skipBlank s₂ = Byte.colon :: s₃) (start : Starts s₃ value s₄)
    (comma : skipBlank s₄ = Byte.comma :: s₅) (next : MembersStart s₅ members rest) :
    MembersStart s ((key, value) :: members) rest

end

/-! ## Blanks and strings -/

theorem skipBlank_skipBlank (s : Bytes) : skipBlank (skipBlank s) = skipBlank s :=
  List.dropWhile_idempotent (p := Byte.isBlank) (l := s)

section Blanks

variable {s s₁ rest : Bytes} {raw : RawJson} {pieces : List RawPiece}

theorem Starts.congr {t : Bytes} (h : Starts s raw rest) (hblank : skipBlank s = skipBlank t) :
    Starts t raw rest := by
  cases h with
  | scalar notArray notObject read =>
    exact .scalar (hblank ▸ notArray) (hblank ▸ notObject) (hblank ▸ read)
  | emptyArray opened closed => exact .emptyArray (hblank ▸ opened) closed
  | array opened notClosed start => exact .array (hblank ▸ opened) notClosed start
  | emptyObject opened closed => exact .emptyObject (hblank ▸ opened) closed
  | object opened notClosed start => exact .object (hblank ▸ opened) notClosed start

theorem Starts.of_skipBlank (h : Starts (skipBlank s) raw rest) : Starts s raw rest :=
  h.congr (skipBlank_skipBlank s)

theorem starts_string (quote : skipBlank s = Byte.quote :: s₁)
    (read : RawString.read s₁ = some (pieces, rest)) : Starts s (string pieces) rest := by
  refine .scalar ?_ ?_ ?_
  · rw [quote]
    exact fun _ h => (nomatch h)
  · rw [quote]
    exact fun _ h => (nomatch h)
  · rw [quote]
    show (RawString.read s₁).map _ = _
    rw [read]
    rfl

end Blanks

/-! ## What is read is there -/

/-! One level of fuel after the other: what is read with a level more is there, if what is read with
the fuel below it is. -/

section Levels

variable {fuel : Nat} {s rest : Bytes}

theorem starts_of_readValue_succ {raw : RawJson}
    (hitems : ∀ s items rest, readItems fuel s = some (items, rest) → ItemsStart s items rest)
    (hmembers : ∀ s members rest, readMembers fuel s = some (members, rest) →
      MembersStart s members rest)
    (h : readValue (fuel + 1) s = some (raw, rest)) : Starts s raw rest := by
  rw [readValue] at h
  split at h
  · rename_i s₁ hopened
    split at h
    · rename_i hclosed
      cases h
      exact .emptyArray hopened hclosed
    · rename_i hnot
      obtain ⟨⟨items, rest'⟩, hread, h⟩ := Option.map_eq_some_iff.1 h
      cases h
      exact .array hopened (fun t ht => hnot t ht) (hitems _ _ _ hread)
  · rename_i s₁ hopened
    split at h
    · rename_i hclosed
      cases h
      exact .emptyObject hopened hclosed
    · rename_i hnot
      obtain ⟨⟨members, rest'⟩, hread, h⟩ := Option.map_eq_some_iff.1 h
      cases h
      exact .object hopened (fun t ht => hnot t ht) (hmembers _ _ _ hread)
  · rename_i hnotArray hnotObject
    exact .scalar (fun t ht => hnotArray t ht) (fun t ht => hnotObject t ht) h

theorem itemsStart_of_readItems_succ {items : List RawJson}
    (hvalue : ∀ s raw rest, readValue fuel s = some (raw, rest) → Starts s raw rest)
    (hitems : ∀ s items rest, readItems fuel s = some (items, rest) → ItemsStart s items rest)
    (h : readItems (fuel + 1) s = some (items, rest)) : ItemsStart s items rest := by
  rw [readItems] at h
  obtain ⟨⟨item, s₁⟩, hread, h⟩ := Option.bind_eq_some_iff.1 h
  have hstart := hvalue _ _ _ hread
  dsimp only at h
  split at h
  · rename_i hclosed
    cases h
    exact .last hstart hclosed
  · rename_i s₂ hcomma
    obtain ⟨⟨more, rest'⟩, hmore, h⟩ := Option.bind_eq_some_iff.1 h
    cases h
    exact .more hstart hcomma (hitems _ _ _ hmore)
  · cases h

theorem membersStart_of_readMembers_succ {members : List (List RawPiece × RawJson)}
    (hvalue : ∀ s raw rest, readValue fuel s = some (raw, rest) → Starts s raw rest)
    (hmembers : ∀ s members rest, readMembers fuel s = some (members, rest) →
      MembersStart s members rest)
    (h : readMembers (fuel + 1) s = some (members, rest)) : MembersStart s members rest := by
  rw [readMembers] at h
  split at h
  · rename_i s₁ hquote
    obtain ⟨⟨key, s₂⟩, hkey, h⟩ := Option.bind_eq_some_iff.1 h
    dsimp only at h
    split at h
    · rename_i s₃ hcolon
      obtain ⟨⟨value, s₄⟩, hread, h⟩ := Option.bind_eq_some_iff.1 h
      have hstart := hvalue _ _ _ hread
      dsimp only at h
      split at h
      · rename_i hclosed
        cases h
        exact .last hquote hkey hcolon hstart hclosed
      · rename_i s₅ hcomma
        obtain ⟨⟨more, rest'⟩, hmore, h⟩ := Option.bind_eq_some_iff.1 h
        cases h
        exact .more hquote hkey hcolon hstart hcomma (hmembers _ _ _ hmore)
      · cases h
    · cases h
  · cases h

end Levels

/-- What any fuel reads is there, for values and what they contain at once. -/
theorem starts_of_fuel (fuel : Nat) :
    (∀ s raw rest, readValue fuel s = some (raw, rest) → Starts s raw rest)
    ∧ (∀ s items rest, readItems fuel s = some (items, rest) → ItemsStart s items rest)
    ∧ ∀ s members rest, readMembers fuel s = some (members, rest) →
        MembersStart s members rest := by
  induction fuel with
  | zero =>
    exact ⟨fun _ _ _ h => (nomatch h), fun _ _ _ h => (nomatch h), fun _ _ _ h => (nomatch h)⟩
  | succ fuel ih =>
    obtain ⟨hvalue, hitems, hmembers⟩ := ih
    exact ⟨fun _ _ _ => starts_of_readValue_succ hitems hmembers,
      fun _ _ _ => itemsStart_of_readItems_succ hvalue hitems,
      fun _ _ _ => membersStart_of_readMembers_succ hvalue hmembers⟩

/-! ## What is there is read -/

/-- A reading that takes no more than the bytes before the rest, and succeeds with all fuel from a
bound on that goes by their number. -/
structure Stable {α : Type} (read : Nat → Bytes → Option (α × Bytes)) (slack : Nat) (s : Bytes)
    (a : α) (rest : Bytes) : Prop where
  length_le : rest.length ≤ s.length
  read : ∀ fuel, 2 * s.length + slack ≤ 2 * rest.length + fuel → read fuel s = some (a, rest)

/-- Fuel that is enough is not none, so it is one level and the rest. -/
theorem Stable.of_succ {α : Type} {read : Nat → Bytes → Option (α × Bytes)} {slack : Nat}
    {s rest : Bytes} {a : α} (hslack : 0 < slack) (hlength : rest.length ≤ s.length)
    (h : ∀ fuel, 2 * s.length + slack ≤ 2 * rest.length + (fuel + 1) →
      read (fuel + 1) s = some (a, rest)) : Stable read slack s a rest := by
  refine ⟨hlength, fun fuel hfuel => ?_⟩
  obtain ⟨fuel, rfl⟩ := Nat.exists_eq_add_one_of_ne_zero (n := fuel) (by omega)
  exact h fuel hfuel

theorem length_skipBlank_cons {s t : Bytes} {b : UInt8} (h : skipBlank s = b :: t) :
    t.length + 1 ≤ s.length := by
  have hle := length_skipBlank_le s
  rw [h, List.length_cons] at hle
  exact hle

/-! What one level of fuel does, once the next byte is known. -/

section Steps

variable {fuel : Nat} {s s₁ s₂ s₃ s₄ : Bytes}

theorem readValue_scalar (notArray : ∀ t, skipBlank s ≠ Byte.openArray :: t)
    (notObject : ∀ t, skipBlank s ≠ Byte.openObject :: t) :
    readValue (fuel + 1) s = readScalar (skipBlank s) := by
  rw [readValue]
  split
  · rename_i heq
    exact absurd heq (notArray _)
  · rename_i heq
    exact absurd heq (notObject _)
  · rfl

theorem readValue_openArray (h : skipBlank s = Byte.openArray :: s₁) :
    readValue (fuel + 1) s = match skipBlank s₁ with
      | Byte.closeArray :: t => some (array [], t)
      | t => (readItems fuel t).map fun (items, rest) => (array items, rest) := by
  rw [readValue, h]
  rfl

theorem readValue_openObject (h : skipBlank s = Byte.openObject :: s₁) :
    readValue (fuel + 1) s = match skipBlank s₁ with
      | Byte.closeObject :: t => some (object [], t)
      | t => (readMembers fuel t).map fun (members, rest) => (object members, rest) := by
  rw [readValue, h]
  rfl

theorem readItems_of_readValue {item : RawJson} (h : readValue fuel s = some (item, s₁)) :
    readItems (fuel + 1) s = match skipBlank s₁ with
      | Byte.closeArray :: t => some ([item], t)
      | Byte.comma :: t => (readItems fuel t).bind fun (items, rest) => some (item :: items, rest)
      | _ => none := by
  rw [readItems, h]
  rfl

theorem readMembers_of_readValue {key : List RawPiece} {value : RawJson}
    (quote : skipBlank s = Byte.quote :: s₁) (read : RawString.read s₁ = some (key, s₂))
    (colon : skipBlank s₂ = Byte.colon :: s₃) (h : readValue fuel s₃ = some (value, s₄)) :
    readMembers (fuel + 1) s = match skipBlank s₄ with
      | Byte.closeObject :: t => some ([(key, value)], t)
      | Byte.comma :: t =>
        (readMembers fuel t).bind fun (members, rest) => some ((key, value) :: members, rest)
      | _ => none := by
  rw [readMembers, quote]
  show (RawString.read s₁ >>= _) = _
  rw [read]
  dsimp only [Option.bind_eq_bind, Option.bind_some]
  rw [colon]
  show (readValue fuel s₃ >>= _) = _
  rw [h]
  rfl

end Steps

mutual

theorem Starts.stable {s rest : Bytes} {raw : RawJson} :
    Starts s raw rest → Stable readValue 1 s raw rest
  | .scalar notArray notObject read => by
    have hle := length_le_of_readScalar read
    have hblank := length_skipBlank_le s
    refine .of_succ (by decide) (by omega) fun fuel hfuel => ?_
    rw [readValue_scalar notArray notObject, read]
  | .emptyArray opened closed => by
    have h₁ := length_skipBlank_cons opened
    have h₂ := length_skipBlank_cons closed
    refine .of_succ (by decide) (by omega) fun fuel hfuel => ?_
    rw [readValue_openArray opened, closed]
    rfl
  | @Starts.array _ s₁ _ _ opened notClosed start => by
    have hitems := start.stable
    have h₁ := length_skipBlank_cons opened
    have h₂ := length_skipBlank_le s₁
    have h₃ := hitems.length_le
    refine .of_succ (by decide) (by omega) fun fuel hfuel => ?_
    rw [readValue_openArray opened]
    split
    · rename_i heq
      exact absurd heq (notClosed _)
    · rw [hitems.read fuel (by omega)]
      rfl
  | .emptyObject opened closed => by
    have h₁ := length_skipBlank_cons opened
    have h₂ := length_skipBlank_cons closed
    refine .of_succ (by decide) (by omega) fun fuel hfuel => ?_
    rw [readValue_openObject opened, closed]
    rfl
  | @Starts.object _ s₁ _ _ opened notClosed start => by
    have hmembers := start.stable
    have h₁ := length_skipBlank_cons opened
    have h₂ := length_skipBlank_le s₁
    have h₃ := hmembers.length_le
    refine .of_succ (by decide) (by omega) fun fuel hfuel => ?_
    rw [readValue_openObject opened]
    split
    · rename_i heq
      exact absurd heq (notClosed _)
    · rw [hmembers.read fuel (by omega)]
      rfl

theorem ItemsStart.stable {s rest : Bytes} {items : List RawJson} :
    ItemsStart s items rest → Stable readItems 2 s items rest
  | .last start closed => by
    have hitem := start.stable
    have h₁ := hitem.length_le
    have h₂ := length_skipBlank_cons closed
    refine .of_succ (by decide) (by omega) fun fuel hfuel => ?_
    rw [readItems_of_readValue (hitem.read fuel (by omega)), closed]
    rfl
  | .more start comma next => by
    have hitem := start.stable
    have hmore := next.stable
    have h₁ := hitem.length_le
    have h₂ := length_skipBlank_cons comma
    have h₃ := hmore.length_le
    refine .of_succ (by decide) (by omega) fun fuel hfuel => ?_
    rw [readItems_of_readValue (hitem.read fuel (by omega)), comma]
    show (readItems fuel _).bind _ = _
    rw [hmore.read fuel (by omega)]
    rfl

theorem MembersStart.stable {s rest : Bytes} {members : List (List RawPiece × RawJson)} :
    MembersStart s members rest → Stable readMembers 2 s members rest
  | .last quote read colon start closed => by
    have hvalue := start.stable
    have h₁ := length_skipBlank_cons quote
    have h₂ := RawString.width_lt_of_read read
    have h₃ := length_skipBlank_cons colon
    have h₄ := hvalue.length_le
    have h₅ := length_skipBlank_cons closed
    refine .of_succ (by decide) (by omega) fun fuel hfuel => ?_
    rw [readMembers_of_readValue quote read colon (hvalue.read fuel (by omega)), closed]
    rfl
  | .more quote read colon start comma next => by
    have hvalue := start.stable
    have hmore := next.stable
    have h₁ := length_skipBlank_cons quote
    have h₂ := RawString.width_lt_of_read read
    have h₃ := length_skipBlank_cons colon
    have h₄ := hvalue.length_le
    have h₅ := length_skipBlank_cons comma
    have h₆ := hmore.length_le
    refine .of_succ (by decide) (by omega) fun fuel hfuel => ?_
    rw [readMembers_of_readValue quote read colon (hvalue.read fuel (by omega)), comma]
    show (readMembers fuel _).bind _ = _
    rw [hmore.read fuel (by omega)]
    rfl

end

/-- The reader finds exactly the values that are there. -/
theorem read_eq_some {s rest : Bytes} {raw : RawJson} :
    read s = some (raw, rest) ↔ Starts s raw rest := by
  constructor
  · intro h
    exact (starts_of_fuel _).1 s raw rest h
  · intro h
    exact h.stable.read _ (by omega)

end RawJson

end NodeRpc
