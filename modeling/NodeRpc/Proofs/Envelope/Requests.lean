import NodeRpc.Envelope.Message
import NodeRpc.Proofs.Envelope.Ids
import NodeRpc.Proofs.Schema.Acceptance
import NodeRpc.Proofs.Schema.Reading

/-!
# Requests

A request is an object with a method and, if it likes, a version, parameters and an id; or a list of
these in the order in which they are written.

* `Request.Fits`             what a value that stands under a declared key must be;
* `Request.Describes`        what the members of a request say about it;
* `Request.decode_object_eq_ok`, `Request.decode_array_eq_ok`   that decoding goes by these;
* `Request.exists_decode`    the values that are requests;
* `Request.decode_encode`    what a request is read back as;
* `Request.grammar`          all of this, and what text may not repeat;
* `Id.survival`              what becomes of an id, and of the request that carries it.
-/

namespace NodeRpc

namespace Version

/-- Whether a JSON value stands for a version: its text, alone or as the one key of an object that
holds null. -/
def Denotes (v : Json) (version : Version) : Prop :=
  v = .string version.text ∨ v = .object [(version.text, .null)]

@[simp] theorem ofVal_toVal (version : Version) : ofVal version.toVal = version := by
  cases version <;> rfl

@[simp] theorem toVal_ofVal (i : Fin 2) : (ofVal i).toVal = i := by
  match i with
  | 0 => rfl
  | 1 => rfl

theorem toVal_eq_default {version : Version} : version.toVal = schema.default ↔ version = v1 := by
  cases version with
  | v1 => exact ⟨fun _ => rfl, fun _ => rfl⟩
  | v2 => exact ⟨fun h => (nomatch h), fun h => (nomatch h)⟩

theorem decode_eq_ok {v : Json} {version : Version} :
    schema.decode v = .ok version.toVal ↔ Denotes v version := by
  have hchoice : ∀ i : Fin 2, decodeChoice "1.0" ["2.0"] v = .ok i ↔ _ := fun i =>
    decodeChoice_eq_ok (by decide)
  cases version with
  | v1 => exact hchoice 0
  | v2 => exact hchoice 1

theorem exists_decode {v : Json} :
    (∃ i, schema.decode v = .ok i) ↔ ∃ version, Denotes v version := by
  constructor
  · rintro ⟨i, hi⟩
    refine ⟨ofVal i, decode_eq_ok.1 ?_⟩
    rw [hi]
    exact congrArg Except.ok (toVal_ofVal i).symm
  · rintro ⟨version, hv⟩
    exact ⟨_, decode_eq_ok.2 hv⟩

end Version

/-! ## Members that may be missing -/

/-- What a member that may be missing says: what its value stands for, or the default. -/
def Told {α : Type} (reads : Json → α → Prop) (default : α) : Option Json → α → Prop
  | some v, a => reads v a
  | none, a => a = default

section Told

variable {α : Type} {reads : Json → α → Prop} {default : α} {member : Option Json}

theorem exists_told (default : α) (h : ∀ v, member = some v → ∃ a, reads v a) :
    ∃ a, Told reads default member a := by
  cases member with
  | none => exact ⟨default, rfl⟩
  | some v => exact h v rfl

theorem slotOf_defaulted {β : Type} {key : String} {decode : Json → Decoded β} {defaultVal b : β}
    {a : α} (h : ∀ v, decode v = .ok b ↔ reads v a) (hdefault : b = defaultVal ↔ a = default) :
    Rule.defaulted.slotOf key decode defaultVal member = .ok b ↔ Told reads default member a := by
  cases member with
  | some v => exact h v
  | none =>
    show Except.ok defaultVal = Except.ok b ↔ a = default
    rw [Except.ok.injEq, eq_comm, hdefault]

theorem slotOf_required {key : String} {decode : Json → Decoded α} {a : α} :
    Rule.required.slotOf key decode default member = .ok a
      ↔ ∃ v, member = some v ∧ decode v = .ok a := by
  cases member with
  | some v =>
    constructor
    · intro hv
      exact ⟨v, rfl, hv⟩
    · rintro ⟨w, hw, hv⟩
      cases hw
      exact hv
  | none => exact ⟨fun heq => (nomatch heq), fun ⟨_, hn, _⟩ => (nomatch hn)⟩

end Told

namespace Request

variable {v : Json} {given : List (String × Json)} {items : List Json} {q : Request}

/-! ## The grammar -/

/-- What a member of a request must be, if its key is declared. -/
structure Fits (m : String × Json) : Prop where
  version : m.1 = "jsonrpc" → ∃ version, Version.Denotes m.2 version
  method : m.1 = "method" → ∃ text, m.2 = .string text
  params : m.1 = "params" → ∃ items, m.2 = .array items
  id : m.1 = "id" → ∃ id, Id.Denotes m.2 id

/-- What the members of a request, by their keys, say about it. -/
structure Describes (member : String → Option Json) (q : Request) : Prop where
  version : Told Version.Denotes .v1 (member "jsonrpc") q.version
  method : member "method" = some (.string q.method)
  params : Told (fun v params => v = .array params) [] (member "params") q.params
  id : Told Id.Denotes .null (member "id") q.id

theorem ofVal_toVal (q : Request) : ofVal q.toVal = q := by
  obtain ⟨version, method, params, id⟩ := q
  show Request.mk (Version.ofVal version.toVal) method params id = _
  rw [Version.ofVal_toVal]

theorem toVal_ofVal (w : schema.Val) : (ofVal w).toVal = w := by
  obtain ⟨i, method, params, id, ⟨⟩⟩ : members.Val := w
  have hi : (Version.ofVal i).toVal = i := Version.toVal_ofVal i
  show ((Version.ofVal i).toVal, method, params, id, ()) = (i, method, params, id, ())
  rw [hi]

theorem decode_eq_ok : decode v = .ok q ↔ schema.decode v = .ok q.toVal := by
  unfold decode
  rw [map_eq_ok]
  constructor
  · rintro ⟨w, hw, rfl⟩
    rw [hw, toVal_ofVal]
  · intro h
    exact ⟨_, h, ofVal_toVal q⟩

theorem check_eq_ok {m : String × Json} : members.check m = .ok () ↔ Fits m := by
  rw [Members.check_eq_ok members (by decide)]
  constructor
  · rintro ⟨hversion, hmethod, hparams, hid, _⟩
    exact
      { version := fun h => Version.exists_decode.1 (hversion h)
        method := fun h => (hmethod h).imp fun _ => Schema.decode_string_eq_ok.1
        params := fun h => (hparams h).imp fun _ => Schema.decode_any_list_eq_ok.1
        id := fun h => (hid h).imp fun _ => Id.decode_eq_ok.1 }
  · intro h
    exact ⟨fun hkey => Version.exists_decode.2 (h.version hkey),
      fun hkey => (h.method hkey).imp fun _ => Schema.decode_string_eq_ok.2,
      fun hkey => (h.params hkey).imp fun _ => Schema.decode_any_list_eq_ok.2,
      fun hkey => (h.id hkey).imp fun _ => Id.decode_eq_ok.2, trivial⟩

theorem members_decode_eq_ok :
    members.decode given = .ok q.toVal ↔ Describes (given.lookup ·) q := by
  have hversion : ∀ o, Rule.defaulted.slotOf "jsonrpc" Version.schema.decode
      Version.schema.default o = .ok q.version.toVal ↔ Told Version.Denotes .v1 o q.version :=
    fun o => slotOf_defaulted (fun _ => Version.decode_eq_ok) Version.toVal_eq_default
  have hmethod : ∀ o, Rule.required.slotOf "method" Schema.string.decode
      Schema.string.default o = .ok q.method ↔ o = some (.string q.method) := by
    intro o
    constructor
    · intro h
      obtain ⟨v, rfl, hv⟩ := slotOf_required.1 h
      rw [Schema.decode_string_eq_ok.1 hv]
    · rintro rfl
      rfl
  have hparams : ∀ o, Rule.defaulted.slotOf "params" (Schema.list .any).decode
      (Schema.list .any).default o = .ok q.params
        ↔ Told (fun v params => v = .array params) [] o q.params :=
    fun o => slotOf_defaulted (fun _ => Schema.decode_any_list_eq_ok) Iff.rfl
  have hid : ∀ o, Rule.defaulted.slotOf "id" (Schema.union .id).decode
      (Schema.union .id).default o = .ok q.id ↔ Told Id.Denotes .null o q.id :=
    fun o => slotOf_defaulted (fun _ => Id.decode_eq_ok) Iff.rfl
  constructor
  · intro h
    obtain ⟨h₁, h⟩ := Members.decode_cons_eq_ok.1 h
    obtain ⟨h₂, h⟩ := Members.decode_cons_eq_ok.1 h
    obtain ⟨h₃, h⟩ := Members.decode_cons_eq_ok.1 h
    obtain ⟨h₄, _⟩ := Members.decode_cons_eq_ok.1 h
    exact ⟨(hversion _).1 h₁, (hmethod _).1 h₂, (hparams _).1 h₃, (hid _).1 h₄⟩
  · intro h
    refine Members.decode_cons_eq_ok.2 ⟨(hversion _).2 h.version, ?_⟩
    refine Members.decode_cons_eq_ok.2 ⟨(hmethod _).2 h.method, ?_⟩
    refine Members.decode_cons_eq_ok.2 ⟨(hparams _).2 h.params, ?_⟩
    exact Members.decode_cons_eq_ok.2 ⟨(hid _).2 h.id, rfl⟩

/-- An object is a request when what stands under a declared key fits, and says so. -/
theorem decode_object_eq_ok :
    decode (.object given) = .ok q ↔ (∀ m ∈ given, Fits m) ∧ Describes (given.lookup ·) q := by
  have hdescribes : schema.decode (.object given) = .ok q.toVal
      ↔ (∀ m ∈ given, members.check m = .ok ()) ∧ members.decode given = .ok q.toVal :=
    Schema.decode_object_eq_ok
  rw [decode_eq_ok, hdescribes, members_decode_eq_ok]
  simp only [check_eq_ok]

/-- A list is a request when it is not too long and the items, under the declared keys, say so. -/
theorem decode_array_eq_ok :
    decode (.array items) = .ok q
      ↔ items.length ≤ 4 ∧ decode (.object (members.keys.zip items)) = .ok q := by
  rw [decode_eq_ok, decode_eq_ok]
  exact Schema.decode_array_eq_ok (by decide) (by decide)

example : decode (.array [.string "2.0", .string "stop"]) = .ok ⟨.v2, "stop", [], .null⟩ := rfl

theorem exists_describes (hmethod : "method" ∈ given.map Prod.fst) (hfits : ∀ m ∈ given, Fits m) :
    ∃ q, Describes (given.lookup ·) q := by
  have hunder : ∀ key v, given.lookup key = some v → Fits (key, v) := by
    intro key v hv
    obtain ⟨before, after, rfl, _⟩ := List.lookup_eq_some_iff.1 hv
    exact hfits _ (List.mem_append_right _ List.mem_cons_self)
  obtain ⟨version, hversion⟩ := exists_told Version.v1
    fun v hv => (hunder "jsonrpc" v hv).version rfl
  obtain ⟨params, hparams⟩ := exists_told []
    fun v hv => (hunder "params" v hv).params rfl
  obtain ⟨id, hid⟩ := exists_told Id.null fun v hv => (hunder "id" v hv).id rfl
  obtain ⟨v, hv⟩ : ∃ v, given.lookup "method" = some v := by
    obtain ⟨m, hm, hkey⟩ := List.mem_map.1 hmethod
    apply Option.isSome_iff_exists.1
    exact List.lookup_isSome_iff.2 ⟨m, hm, beq_iff_eq.2 hkey.symm⟩
  obtain ⟨text, rfl⟩ := (hunder "method" v hv).method rfl
  exact ⟨⟨version, text, params, id⟩, hversion, hv, hparams, hid⟩

theorem Describes.method_mem (h : Describes (given.lookup ·) q) :
    "method" ∈ given.map Prod.fst := by
  obtain ⟨before, after, hgiven, _⟩ := List.lookup_eq_some_iff.1 h.method
  rw [hgiven, List.map_append]
  exact List.mem_append_right _ List.mem_cons_self

/-- The values that decode as requests. -/
theorem exists_decode : (∃ q, decode v = .ok q) ↔
    (∃ given, v = .object given ∧ "method" ∈ given.map Prod.fst ∧ ∀ m ∈ given, Fits m)
    ∨ ∃ items, v = .array items ∧ 2 ≤ items.length ∧ items.length ≤ 4
      ∧ ∀ m ∈ members.keys.zip items, Fits m := by
  have hobject : ∀ given, (∃ q, decode (.object given) = .ok q)
      ↔ "method" ∈ given.map Prod.fst ∧ ∀ m ∈ given, Fits m := by
    intro given
    constructor
    · rintro ⟨q, hq⟩
      obtain ⟨hfits, hdescribes⟩ := decode_object_eq_ok.1 hq
      exact ⟨hdescribes.method_mem, hfits⟩
    · rintro ⟨hmethod, hfits⟩
      obtain ⟨q, hdescribes⟩ := exists_describes hmethod hfits
      exact ⟨q, decode_object_eq_ok.2 ⟨hfits, hdescribes⟩⟩
  have hsecond : ∀ items : List Json,
      "method" ∈ (members.keys.zip items).map Prod.fst ↔ 2 ≤ items.length := by
    intro items
    rcases items with _ | ⟨a, _ | ⟨b, items⟩⟩ <;> simp [members, Members.keys]
  cases v with
  | object given => simp [hobject]
  | array items =>
    have harray : (∃ q, decode (.array items) = .ok q)
        ↔ items.length ≤ 4 ∧ ∃ q, decode (.object (members.keys.zip items)) = .ok q := by
      rw [← exists_and_left]
      exact exists_congr fun _ => decode_array_eq_ok
    rw [harray, hobject, hsecond]
    simp [and_left_comm]
  | null => exact ⟨fun ⟨_, h⟩ => (nomatch h), fun h => by simp at h⟩
  | bool b => exact ⟨fun ⟨_, h⟩ => (nomatch h), fun h => by simp at h⟩
  | number n => exact ⟨fun ⟨_, h⟩ => (nomatch h), fun h => by simp at h⟩
  | string s => exact ⟨fun ⟨_, h⟩ => (nomatch h), fun h => by simp at h⟩

/-! ## Decoding what was encoded -/

theorem encode_eq (q : Request) :
    q.encode = .object [("jsonrpc", .string q.version.text), ("method", .string q.method),
      ("params", .array q.params), ("id", q.id.encode)] := by
  obtain ⟨version, method, params, id⟩ := q
  show Json.object [("jsonrpc", Version.schema.encode version.toVal), ("method", .string method),
    ("params", (Schema.list .any).encode params), ("id", id.encode)] = _
  rw [Schema.encode_any_list]
  cases version <;> rfl

theorem decode_encode (q : Request) : decode q.encode = .ok { q with id := q.id.settle } := by
  have hid : Id.Denotes q.id.encode q.id.settle := Id.decode_eq_ok.1 q.id.decode_encode
  rw [encode_eq, decode_object_eq_ok]
  constructor
  · intro m hm
    simp only [List.mem_cons, List.not_mem_nil, or_false] at hm
    rcases hm with rfl | rfl | rfl | rfl
    · exact ⟨fun _ => ⟨q.version, .inl rfl⟩, by simp, by simp, by simp⟩
    · exact ⟨by simp, fun _ => ⟨q.method, rfl⟩, by simp, by simp⟩
    · exact ⟨by simp, by simp, fun _ => ⟨q.params, rfl⟩, by simp⟩
    · exact ⟨by simp, by simp, by simp, fun _ => ⟨_, hid⟩⟩
  · exact ⟨.inl rfl, rfl, rfl, hid⟩

/-- The grammar of requests.

A request is an object with a method whose declared members fit, or a list of two to four items that
fit in their places; it is what these say, by default where they are silent.  Text may not repeat a
declared member.  A request is written with all its members, in order, and read back as it is if its
id is. -/
theorem grammar :
    -- what is a request
    (∀ v, (∃ q, decode v = .ok q) ↔
      (∃ given, v = .object given ∧ "method" ∈ given.map Prod.fst ∧ ∀ m ∈ given, Fits m)
      ∨ ∃ items, v = .array items ∧ 2 ≤ items.length ∧ items.length ≤ 4
        ∧ ∀ m ∈ members.keys.zip items, Fits m)
    -- which one it is
    ∧ (∀ given q, decode (.object given) = .ok q → Describes (given.lookup ·) q)
    ∧ (∀ items q, decode (.array items) = .ok q → Describes ((members.keys.zip items).lookup ·) q)
    -- text
    ∧ (∀ bytes given rest, RawJson.read bytes = some (.object given, rest) →
        ∀ key ∈ members.keys, 1 < Reading.timesGiven key given → ∃ e, ofBytes bytes = .error e)
    -- what is written
    ∧ (∀ q : Request, q.encode = .object [("jsonrpc", .string q.version.text),
        ("method", .string q.method), ("params", .array q.params), ("id", q.id.encode)])
    -- what is read back
    ∧ ∀ q : Request, decode q.encode = .ok q ↔ q.id.Survives := by
  refine ⟨fun v => exists_decode, fun given q h => (decode_object_eq_ok.1 h).2, fun items q h => ?_,
    fun bytes given rest hobject key hkey htimes => ?_, encode_eq, fun q => ?_⟩
  · obtain ⟨_, hobject⟩ := decode_array_eq_ok.1 h
    exact (decode_object_eq_ok.1 hobject).2
  · obtain ⟨e, he⟩ : ∃ e, schema.ofBytes bytes = .error e :=
      Schema.ofBytes_repeated hobject hkey htimes
    refine ⟨e, ?_⟩
    unfold ofBytes
    rw [he]
    rfl
  · rw [decode_encode, Except.ok.injEq, ← Id.settle_eq_self]
    constructor
    · exact congrArg id
    · intro hid
      rw [hid]

end Request

/-- Ids on the wire.

Decoding takes every scalar but a flag, and integers as their conversions do.  An id is read back as
it is unless it is a float that is not finite, which comes back as null and makes a notification of
its request, or an unsigned integer within the signed range, which comes back as a signed one.  So
what was decoded survives, and so does what any conversion makes, of a finite float if of a float;
and ids that survive are told apart by their encodings, floats by their bit patterns. -/
theorem Id.survival :
    -- decoding
    (∀ v x, decode v = .ok x ↔ Denotes v x)
    ∧ (∀ v, (∃ e, decode v = .error e) ↔ v.kind = .bool ∨ v.kind = .array ∨ v.kind = .object)
    ∧ (∀ w (h : w.max ≤ IntWidth.int64.max) (n : Integer w),
        decode (.ofInteger n) = .ok (ofSigned h n))
    ∧ (∀ n : Integer .uint64, decode (.ofInteger n) = .ok (ofUnsigned n))
    -- what comes back
    ∧ (∀ x, decode x.encode = .ok x ↔ x.Survives)
    ∧ (∀ x : Binary .double, ¬ x.IsFinite → decode (float x).encode = .ok null
        ∧ ∀ q : Request, q.id = float x →
            ∃ q', Request.decode q.encode = .ok q' ∧ q'.isNotification = true)
    ∧ (∀ n : Integer .uint64, n.value ≤ IntWidth.int64.max →
        ∃ m : Integer .int64, m.value = n.value ∧ decode (unsigned n).encode = .ok (number m))
    -- what survives
    ∧ (∀ v x, decode v = .ok x → x.Survives)
    ∧ (∀ s, (string s).Survives)
    ∧ (∀ w (h : w.max ≤ IntWidth.int64.max) (n : Integer w), (ofSigned h n).Survives)
    ∧ (∀ n, (ofUnsigned n).Survives)
    ∧ (∀ x : Binary .double, x.IsFinite → (float x).Survives)
    ∧ (∀ (α : Type) (f : α → Id), (∀ a, (f a).Survives) → ∀ o, (ofOption f o).Survives)
    -- telling apart
    ∧ (∀ x y, Survives x → Survives y → (x = y ↔ x.encode = y.encode))
    ∧ ∀ a b : Finite .double, float (.finite a) = float (.finite b) ↔ a.bits = b.bits := by
  refine ⟨fun v x => decode_eq_ok, fun v => decode_eq_error, fun w h n => decode_signed h n,
    decode_unsigned, fun x => decode_encode_iff, fun x hx => ?_, fun n hn => ?_,
    fun v x => survives_of_decode, fun s => trivial, fun w h n => trivial, survives_ofUnsigned,
    fun x hx => hx, fun α f => survives_ofOption, fun x y hx hy => (encode_inj hx hy).symm,
    fun a b => ?_⟩
  · have hsettle := settle_of_not_isFinite hx
    refine ⟨by rw [decode_encode, hsettle], fun q hq => ?_⟩
    refine ⟨_, q.decode_encode, ?_⟩
    unfold Request.isNotification
    rw [hq, hsettle]
    rfl
  · obtain ⟨m, hm, hsettle⟩ := ofUnsigned_of_le hn
    refine ⟨m, hm, ?_⟩
    rw [decode_encode]
    exact congrArg Except.ok hsettle
  · rw [float.injEq, Binary.finite.injEq, Finite.bits_inj]

end NodeRpc
