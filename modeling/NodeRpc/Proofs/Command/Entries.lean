import NodeRpc.Proofs.Registry.Slots
import NodeRpc.Proofs.Schema.RoundTrip

/-!
# What an entry reads back as

A fee guard that says nothing settles as a flag, and an optional field that is not set takes its
default.  Every other entry reads back as it is.

* `Schema.decode_encode_settle`  a set entry decodes from its encoding, settled;
* `Field.fill`                   what an entry reads back as once it has been sent;
* `Field.decode_received`        it does;
* `Field.complete_of_decode`     an entry that was decoded is filled already.
-/

namespace NodeRpc

/-! ## Values of parameters -/

namespace Schema

/-- What a value reads back as. -/
def settle : (s : Schema) → s.Val → s.Val
  | .union .feeGuard, v => FeeGuard.settle v
  | _, v => v

/-- Whether a value is no fee guard that says nothing. -/
def Settled : (s : Schema) → s.Val → Prop
  | .union .feeGuard, v => v ≠ FeeGuard.unset
  | _, _ => True

/-- Whether the values of a parameter read back, once settled, and null is none of them. -/
def legible (s : Schema) : Bool :=
  (s.regular || decide (s = .union .feeGuard)) && !s.accepts .null

theorem legible_cases {s : Schema} (h : s.legible = true) :
    s.regular = true ∨ s = .union .feeGuard := by
  rw [legible, Bool.and_eq_true, Bool.or_eq_true, decide_eq_true_eq] at h
  exact h.1

theorem accepts_null_of_legible {s : Schema} (h : s.legible = true) : s.accepts .null = false := by
  rw [legible, Bool.and_eq_true, Bool.not_eq_true'] at h
  exact h.2

theorem settle_eq_self {s : Schema} {v : s.Val} (h : s.Settled v) : s.settle v = v := by
  cases s with
  | union u =>
    cases u with
    | feeGuard => exact FeeGuard.settle_eq_self h
    | _ => rfl
  | _ => rfl

theorem settled_of_regular {s : Schema} (h : s.regular = true) (v : s.Val) : s.Settled v := by
  cases s with
  | union u =>
    cases u with
    | feeGuard => cases h
    | _ => trivial
  | _ => trivial

theorem encode_settle (s : Schema) (v : s.Val) : s.encode (s.settle v) = s.encode v := by
  cases s with
  | union u =>
    cases u with
    | feeGuard => exact FeeGuard.encode_settle v
    | _ => rfl
  | _ => rfl

theorem decode_encode_settle {s : Schema} (hs : s.legible = true) {v : s.Val}
    (hf : s.FloatsFinite v) (ha : s.AmountsSurvive v) :
    s.decode (s.encode v) = .ok (s.settle v) := by
  rcases legible_cases hs with hregular | rfl
  · rw [settle_eq_self (settled_of_regular hregular v)]
    exact s.decode_encode hregular v hf ha
  · exact FeeGuard.decode_encode v

theorem isNull_encode {s : Schema} (hs : s.legible = true) {v : s.Val} (hf : s.FloatsFinite v) :
    (s.encode v).isNull = false := by
  have hnull := accepts_null_of_legible hs
  cases s with
  | any => cases hnull
  | float f =>
    obtain ⟨x, hx⟩ : Binary.IsFinite v := hf
    rcases legible_cases hs with hregular | heq
    · have hdouble : f = .double := of_decide_eq_true hregular
      subst hdouble hx
      rfl
    · cases heq
  | union u =>
    cases u with
    | descriptorRange => cases (v : DescriptorRange) <;> rfl
    | hashOrHeight => cases (v : HashOrHeight) <;> rfl
    | timestamp => cases (v : Timestamp) <;> rfl
    | feeGuard => cases (v : FeeGuard) <;> rfl
    | scriptPubKey => cases (v : ScriptPubKey) <;> rfl
    | templateLimit member => cases (v : TemplateLimit) <;> rfl
    | psbtOutput => cases (v : PsbtOutput) <;> rfl
    | id => rcases legible_cases hs with hregular | heq <;> contradiction
  | _ => rfl

theorem settled_of_decode {s : Schema} (hs : s.legible = true) {j : Json} {v : s.Val}
    (h : s.decode j = .ok v) : s.Settled v := by
  rcases legible_cases hs with hregular | rfl
  · exact settled_of_regular hregular v
  · exact FeeGuard.ne_unset_of_decode h

theorem floatsFinite_of_decode_legible {s : Schema} (hs : s.legible = true) {j : Json} {v : s.Val}
    (h : s.decode j = .ok v) : s.FloatsFinite v := by
  rcases legible_cases hs with hregular | rfl
  · exact floatsFinite_of_decode hregular h
  · trivial

end Schema

/-! ## Entries -/

namespace Entry

variable {α : Type} {decode : Json → Decoded α}

theorem decode_some {v : Json} {a : α} (hv : v.isNull = false) (h : decode v = .ok a) :
    Entry.decode decode true (some v) = .ok (some a) := by
  show (if v.isNull = true then Except.ok none else (decode v).map some) = _
  rw [hv, h]
  rfl

theorem decode_eq_none {slot : Option Json} (h : Entry.decode decode true slot = .ok none) :
    slot = none ∨ slot = some .null := by
  cases slot with
  | none => exact .inl rfl
  | some v =>
    refine .inr (congrArg some (Json.isNull_iff.1 ?_))
    cases hv : v.isNull with
    | true => rfl
    | false =>
      have hmap : (decode v).map some = .ok none := by
        rw [← h]
        show _ = if v.isNull = true then Except.ok none else (decode v).map some
        rw [hv]
        rfl
      obtain ⟨a, _, ha⟩ := map_eq_ok.1 hmap
      cases ha

theorem decode_eq_some {slot : Option Json} {a : α}
    (h : Entry.decode decode true slot = .ok (some a)) : ∃ v, slot = some v ∧ decode v = .ok a := by
  cases slot with
  | none => cases h
  | some v =>
    change (if v.isNull = true then Except.ok none else (decode v).map some) = _ at h
    split at h
    · cases h
    · obtain ⟨b, hb, heq⟩ := map_eq_ok.1 h
      cases heq
      exact ⟨v, rfl, hb⟩

def Every (P : α → Prop) : (optional : Bool) → Entry optional α → Prop
  | true, o => ∀ a, o = some a → P a
  | false, a => P a

def map (g : α → α) : (optional : Bool) → Entry optional α → Entry optional α
  | true, o => Option.map g o
  | false, a => g a

def orDefault (default : Option α) : (optional : Bool) → Entry optional α → Entry optional α
  | true, o => Option.or o default
  | false, a => a

theorem every_imp {P Q : α → Prop} (h : ∀ a, P a → Q a) (optional : Bool)
    {e : Entry optional α} (hp : Every P optional e) : Every Q optional e := by
  cases optional with
  | true => exact fun a ha => h a (hp a ha)
  | false => exact h e hp

theorem every_of_forall {P : α → Prop} (h : ∀ a, P a) (optional : Bool) (e : Entry optional α) :
    Every P optional e := by
  cases optional with
  | true => exact fun a _ => h a
  | false => exact h e

/-- What decoding guarantees of a value it guarantees of an entry. -/
theorem every_of_decode {P : α → Prop} (h : ∀ j a, decode j = .ok a → P a) (optional : Bool)
    {slot : Option Json} {e : Entry optional α} (hd : Entry.decode decode optional slot = .ok e) :
    Every P optional e := by
  cases optional with
  | false => exact h _ e hd
  | true =>
    rintro a rfl
    obtain ⟨v, _, hv⟩ := decode_eq_some hd
    exact h v a hv

theorem map_eq_self {g : α → α} (optional : Bool) {e : Entry optional α}
    (h : Every (fun a => g a = a) optional e) : map g optional e = e := by
  cases optional with
  | false => exact h
  | true =>
    cases e with
    | none => rfl
    | some a => exact congrArg some (h a rfl)

end Entry

/-! ## Entries of a field -/

namespace Field

def defaultVal? (f : Field) : Option f.schema.Val :=
  f.default?.bind fun j => (f.schema.decode j).toOption

def slot (f : Field) (e : Entry f.optional f.schema.Val) : Option Json :=
  Entry.encode f.schema.encode f.optional e

def settle (f : Field) (e : Entry f.optional f.schema.Val) : Entry f.optional f.schema.Val :=
  Entry.map f.schema.settle f.optional e

/-- What an entry reads back as: settled, and with the default if it is not set. -/
def fill (f : Field) (e : Entry f.optional f.schema.Val) : Entry f.optional f.schema.Val :=
  Entry.orDefault f.defaultVal? f.optional (f.settle e)

/-- Whether an entry is set, if its field has a default, and is no fee guard that says nothing. -/
def Complete (f : Field) (e : Entry f.optional f.schema.Val) : Prop :=
  (f.slot e = none → f.defaultText = none)
    ∧ Entry.Every f.schema.Settled f.optional e

variable {f : Field} {e : Entry f.optional f.schema.Val}

theorem decode_default (hf : f.DefaultFits) (hs : f.schema.legible = true) :
    Entry.decode f.schema.decode true f.default? = .ok f.defaultVal? := by
  unfold defaultVal?
  cases hdefault : f.default? with
  | none => rfl
  | some j =>
    obtain ⟨v, hv⟩ := isOk_iff.1 (hf.of_default hdefault).2
    have hnull := Schema.isNull_of_decode (Schema.accepts_null_of_legible hs) hv
    rw [Entry.decode_some hnull hv, Option.bind_some, hv]
    rfl

theorem defaultVal?_eq_none (hf : f.DefaultFits) (hs : f.schema.legible = true) :
    f.defaultVal? = none ↔ f.defaultText = none := by
  constructor
  · intro h
    have hdecode := decode_default hf hs
    rw [h] at hdecode
    cases htext : f.defaultText with
    | none => rfl
    | some text =>
      obtain ⟨_, v, hread, haccepts⟩ := hf text htext
      have hdefault : f.default? = some v := by rw [default?, htext]; exact hread
      rcases Entry.decode_eq_none hdecode with hnone | hnull
      · rw [hdefault] at hnone
        cases hnone
      · rw [hdefault] at hnull
        cases hnull
        rw [accepts, Schema.accepts_null_of_legible hs] at haccepts
        cases haccepts
  · intro h
    unfold defaultVal? default?
    rw [h]
    rfl

theorem slot_settle (f : Field) (e : Entry f.optional f.schema.Val) :
    f.slot (f.settle e) = f.slot e := by
  obtain ⟨name, schema, kind, optional, text, usage, description⟩ := f
  cases optional with
  | false => exact congrArg some (schema.encode_settle e)
  | true =>
    cases e with
    | none => rfl
    | some a => exact congrArg some (schema.encode_settle a)

theorem slot_ne_null (hs : f.schema.legible = true)
    (hfinite : Entry.Every f.schema.FloatsFinite f.optional e) : f.slot e ≠ some .null := by
  have hset : ∀ a, f.schema.FloatsFinite a → f.schema.encode a ≠ .null := by
    intro a ha hnull
    have hfalse := Schema.isNull_encode hs ha
    rw [hnull] at hfalse
    cases hfalse
  obtain ⟨name, schema, kind, optional, text, usage, description⟩ := f
  cases optional with
  | false => exact fun h => hset e hfinite (Option.some.inj h)
  | true =>
    cases e with
    | none => exact fun h => (nomatch h)
    | some a => exact fun h => hset a (hfinite a rfl) (Option.some.inj h)

theorem decode_slot (hs : f.schema.legible = true)
    (hfinite : Entry.Every f.schema.FloatsFinite f.optional e)
    (hamounts : Entry.Every f.schema.AmountsSurvive f.optional e) :
    Entry.decode f.schema.decode f.optional (f.slot e) = .ok (f.settle e) := by
  have hnull := Schema.accepts_null_of_legible hs
  obtain ⟨name, schema, kind, optional, text, usage, description⟩ := f
  cases optional with
  | false => exact Schema.decode_encode_settle hs hfinite hamounts
  | true =>
    cases e with
    | none => rfl
    | some a =>
      have ha := Schema.decode_encode_settle hs (hfinite a rfl) (hamounts a rfl)
      exact Entry.decode_some (Schema.isNull_of_decode hnull ha) ha

/-- An entry that was sent is handed to the decoder so that it decodes filled. -/
theorem decode_received (hf : f.DefaultFits) (hs : f.schema.legible = true)
    (hfinite : Entry.Every f.schema.FloatsFinite f.optional e)
    (hamounts : Entry.Every f.schema.AmountsSurvive f.optional e) :
    Entry.decode f.schema.decode f.optional (f.received (f.slot e)) = .ok (f.fill e) := by
  have hsettle := decode_slot hs hfinite hamounts
  have hdefault := decode_default hf hs
  obtain ⟨name, schema, kind, optional, text, usage, description⟩ := f
  cases optional with
  | false => exact (congrArg _ (received_of_required rfl _)).trans hsettle
  | true =>
    cases e with
    | none => exact (congrArg _ (received_none rfl)).trans hdefault
    | some a =>
      have hset := Schema.isNull_encode hs (hfinite a rfl)
      exact (congrArg _ (received_some fun _ => hset)).trans hsettle

theorem fill_eq_self (hf : f.DefaultFits) (hs : f.schema.legible = true) (he : f.Complete e) :
    f.fill e = e := by
  have hsettle : f.settle e = e :=
    Entry.map_eq_self _ (Entry.every_imp (fun _ => Schema.settle_eq_self) _ he.2)
  have hdefault := (defaultVal?_eq_none hf hs).2
  unfold fill
  rw [hsettle]
  obtain ⟨name, schema, kind, optional, text, usage, description⟩ := f
  cases optional with
  | false => rfl
  | true =>
    cases e with
    | some a => rfl
    | none => exact hdefault (he.1 rfl)

/-- An entry that was decoded from what the decoder is handed is complete. -/
theorem complete_of_decode (hf : f.DefaultFits) (hs : f.schema.legible = true) {slot : Option Json}
    (hslot : f.received slot = slot)
    (hd : Entry.decode f.schema.decode f.optional slot = .ok e) : f.Complete e := by
  refine ⟨fun hunset => ?_, Entry.every_of_decode (fun _ _ => Schema.settled_of_decode hs) _ hd⟩
  have hdefault := decode_default hf hs
  have hnone := (defaultVal?_eq_none hf hs).1
  obtain ⟨name, schema, kind, optional, text, usage, description⟩ := f
  cases optional with
  | false => cases hunset
  | true =>
    cases e with
    | some a => cases hunset
    | none =>
      have hreceived := (if_pos ⟨rfl, Entry.decode_eq_none hd⟩).symm.trans hslot
      have hsame := hdefault.symm.trans ((congrArg _ hreceived).trans hd)
      exact hnone (Except.ok.inj hsame)

end Field

end NodeRpc
