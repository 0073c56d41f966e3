import NodeRpc.Proofs.Envelope.Requests

/-!
# Responses

Responses are written by hand, by version, and read by the schema of their members; so not all that
is in one is written, and not all that is written is told apart when it is read.

* `Response.encode_v1`, `Response.encode_error`, `Response.encode_result`   what is written;
* `Response.DropsResult`                      when the result is not read back;
* `Response.settle`, `Response.decode_encode` what a response is read back as;
* `Response.settle_eq_self`                   the responses that are read back as they are;
* `Response.losses`                           all of this together.
-/

namespace NodeRpc

/-! ## Error objects -/

namespace RpcError

theorem decode_encode (e : RpcError) : schema.decode e.encode = .ok e.toVal :=
  schema.decode_encode (by decide) e.toVal ⟨trivial, trivial, trivial⟩ ⟨trivial, trivial, trivial⟩

end RpcError

namespace Response

/-! ## What is written -/

variable {r : Response}

theorem encode_v1 (h : r.version = .v1) :
    r.encode = .object [("jsonrpc", .string "1.0"), ("result", r.resultJson),
      ("error", r.errorJson), ("id", r.id.encode)] := by
  unfold encode outcome
  rw [h]
  rfl

theorem encode_error {e : RpcError} (h : r.version = .v2) (he : r.error = some e) :
    r.encode = .object [("jsonrpc", .string "2.0"), ("error", e.encode), ("id", r.id.encode)] := by
  unfold encode outcome
  rw [h, he]
  rfl

theorem encode_result (h : r.version = .v2) (he : r.error = none) :
    r.encode = .object [("jsonrpc", .string "2.0"), ("result", r.resultJson),
      ("id", r.id.encode)] := by
  unfold encode outcome
  rw [h, he]
  rfl

/-! ## What is read back -/

/-- Whether an error stands in the place of the result. -/
def ErrorOnly (r : Response) : Prop := r.version = .v2 ∧ r.error ≠ none

/-- Whether no result is read back: it is null, or an error stands in its place. -/
def DropsResult (r : Response) : Prop := r.result = some .null ∨ r.ErrorOnly

instance (r : Response) : Decidable r.ErrorOnly := inferInstanceAs (Decidable (_ ∧ _))

instance (r : Response) : Decidable r.DropsResult := inferInstanceAs (Decidable (_ ∨ _))

def settle (r : Response) : Response :=
  { r with result := if r.DropsResult then none else r.result, id := r.id.settle }

/-! Each member is read back from what is written for it. -/

theorem slotOf_version (version : Version) :
    Rule.defaulted.slotOf "jsonrpc" Version.schema.decode Version.schema.default
      (some (.string version.text)) = .ok version.toVal :=
  Version.decode_eq_ok.2 (.inl rfl)

theorem slotOf_id (id : Id) :
    Rule.defaulted.slotOf "id" (Schema.union .id).decode (Schema.union .id).default
      (some id.encode) = .ok id.settle :=
  id.decode_encode

theorem slotOf_error (r : Response) :
    Rule.lenient.slotOf "error" RpcError.schema.decode RpcError.schema.default (some r.errorJson)
      = .ok (r.error.map RpcError.toVal) := by
  unfold errorJson
  cases r.error with
  | none => rfl
  | some e =>
    show (RpcError.schema.decode e.encode).map some = _
    rw [e.decode_encode]
    rfl

theorem slotOf_result {v : Json} :
    Rule.lenient.slotOf "result" Schema.any.decode Schema.any.default (some v)
      = Except.ok (ε := DecodeError) (if v.isNull then none else some v) := by
  cases v <;> rfl

def written (r : Response) : List (String × Json) :=
  ("jsonrpc", .string r.version.text) :: r.outcome ++ [("id", r.id.encode)]

theorem keys_written (r : Response) : (r.written.map Prod.fst).Nodup := by
  obtain ⟨version, result, error, id⟩ := r
  cases version with
  | v1 => exact (by decide : ["jsonrpc", "result", "error", "id"].Nodup)
  | v2 =>
    cases error with
    | none => exact (by decide : ["jsonrpc", "result", "id"].Nodup)
    | some e => exact (by decide : ["jsonrpc", "error", "id"].Nodup)

theorem lookup_version (r : Response) :
    r.written.lookup "jsonrpc" = some (.string r.version.text) := List.lookup_cons_self

theorem lookup_id (r : Response) : r.written.lookup "id" = some r.id.encode := by
  obtain ⟨version, result, error, id⟩ := r
  cases version with
  | v1 => rfl
  | v2 => cases error <;> rfl

theorem lookup_result_of_errorOnly (h : r.ErrorOnly) : r.written.lookup "result" = none := by
  obtain ⟨version, result, error, id⟩ := r
  obtain ⟨rfl, he⟩ : version = .v2 ∧ error ≠ none := h
  obtain ⟨e, rfl⟩ := Option.ne_none_iff_exists'.1 he
  rfl

theorem lookup_result (h : ¬ r.ErrorOnly) : r.written.lookup "result" = some r.resultJson := by
  obtain ⟨version, result, error, id⟩ := r
  cases version with
  | v1 => rfl
  | v2 =>
    cases error with
    | none => rfl
    | some e => exact absurd ⟨rfl, Option.some_ne_none e⟩ h

theorem slotOf_lookup_result (r : Response) :
    Rule.lenient.slotOf "result" Schema.any.decode Schema.any.default (r.written.lookup "result")
      = Except.ok (ε := DecodeError) r.settle.result := by
  show _ = Except.ok (if r.DropsResult then none else r.result)
  by_cases h : r.ErrorOnly
  · rw [lookup_result_of_errorOnly h, if_pos (.inr h)]
    rfl
  · rw [lookup_result h, slotOf_result, resultJson]
    cases hresult : r.result with
    | none =>
      rw [ite_self]
      rfl
    | some v =>
      rw [Option.getD_some]
      by_cases hnull : v = .null
      · rw [if_pos (Json.isNull_iff.2 hnull), if_pos (.inl (hresult.trans (congrArg some hnull)))]
      · rw [if_neg (mt Json.isNull_iff.1 hnull), if_neg]
        rintro (heq | herror)
        · exact hnull (Option.some.inj (hresult.symm.trans heq))
        · exact h herror

theorem slotOf_lookup_error (r : Response) :
    Rule.lenient.slotOf "error" RpcError.schema.decode RpcError.schema.default
      (r.written.lookup "error") = .ok (r.error.map RpcError.toVal) := by
  have herror := r.slotOf_error
  obtain ⟨version, result, error, id⟩ := r
  cases version with
  | v1 => exact herror
  | v2 =>
    cases error with
    | none => rfl
    | some e => exact herror

/-- A response is read back as it is, but for its result and its id. -/
theorem decode_encode (r : Response) : decode r.encode = .ok r.settle := by
  let w : members.Val :=
    (r.version.toVal, r.settle.result, r.error.map RpcError.toVal, r.id.settle, ())
  have hmembers : members.decode r.written = .ok w := by
    refine Members.decode_cons_eq_ok.2 ⟨?_, ?_⟩
    · rw [lookup_version]
      exact slotOf_version r.version
    refine Members.decode_cons_eq_ok.2 ⟨r.slotOf_lookup_result, ?_⟩
    refine Members.decode_cons_eq_ok.2 ⟨r.slotOf_lookup_error, ?_⟩
    refine Members.decode_cons_eq_ok.2 ⟨?_, rfl⟩
    rw [lookup_id]
    exact slotOf_id r.id
  have hschema : schema.decode r.encode = .ok w :=
    (Schema.decode_object_of_nodup r.keys_written).2 hmembers
  unfold decode
  rw [hschema]
  show Except.ok (Response.mk (.ofVal r.version.toVal) r.settle.result
    ((r.error.map RpcError.toVal).map RpcError.ofVal) r.id.settle) = _
  have herror : (r.error.map RpcError.toVal).map RpcError.ofVal = r.error := by
    cases r.error <;> rfl
  rw [Version.ofVal_toVal, herror]
  rfl

theorem settle_eq_self :
    r.settle = r ↔ (r.DropsResult → r.result = none) ∧ r.id.Survives := by
  rw [← Id.settle_eq_self]
  constructor
  · intro h
    have hresult : (if r.DropsResult then none else r.result) = r.result := congrArg result h
    refine ⟨fun hdrops => ?_, congrArg id h⟩
    rw [if_pos hdrops] at hresult
    exact hresult.symm
  · rintro ⟨hdrops, hid⟩
    have hresult : (if r.DropsResult then none else r.result) = r.result := by
      split
      · rename_i h
        exact (hdrops h).symm
      · rfl
    unfold settle
    rw [hresult, hid]

/-! ## Written again -/

theorem resultJson_settle (h : ¬ r.ErrorOnly) : r.settle.resultJson = r.resultJson := by
  show (if r.DropsResult then none else r.result).getD .null = r.result.getD .null
  split
  · rename_i hdrops
    rw [hdrops.resolve_right h]
    rfl
  · rfl

theorem encode_settle (r : Response) : r.settle.encode = r.encode := by
  have hid : r.settle.id.encode = r.id.encode := r.id.encode_settle
  have herror : r.settle.errorJson = r.errorJson := rfl
  cases hversion : r.version with
  | v1 =>
    have hplain : ¬ r.ErrorOnly := fun h => absurd (hversion.symm.trans h.1) (by decide)
    rw [encode_v1 (r := r.settle) hversion, encode_v1 hversion, resultJson_settle hplain, herror,
      hid]
  | v2 =>
    cases he : r.error with
    | none =>
      have hplain : ¬ r.ErrorOnly := fun h => h.2 he
      rw [encode_result (r := r.settle) hversion he, encode_result hversion he,
        resultJson_settle hplain, hid]
    | some e => rw [encode_error (r := r.settle) hversion he, encode_error hversion he, hid]

/-- What a response loses on the wire.

It is written with all its members under version 1.0, and under 2.0 with its error if it has one and
else with its result.  Reading that back always gives a response, which is written as the first was.
The version and the error are the same; the result is, unless it was null or an error stood in its
place, which leaves none; and the id is, unless it does not survive.  So nothing is lost exactly when
there is no result to drop and the id survives. -/
theorem losses :
    -- what is written
    (∀ r : Response, r.version = .v1 → r.encode = .object [("jsonrpc", .string "1.0"),
        ("result", r.resultJson), ("error", r.errorJson), ("id", r.id.encode)])
    ∧ (∀ (r : Response) e, r.version = .v2 → r.error = some e →
        r.encode = .object [("jsonrpc", .string "2.0"), ("error", e.encode), ("id", r.id.encode)])
    ∧ (∀ r : Response, r.version = .v2 → r.error = none →
        r.encode = .object [("jsonrpc", .string "2.0"), ("result", r.resultJson),
          ("id", r.id.encode)])
    -- what is read back
    ∧ (∀ r : Response, ∃ r', decode r.encode = .ok r'
        ∧ r'.version = r.version ∧ r'.error = r.error
        ∧ r'.result = (if r.DropsResult then none else r.result)
        ∧ (r.id.Survives → r'.id = r.id)
        ∧ (∀ x : Binary .double, r.id = .float x → ¬ x.IsFinite → r'.id = .null)
        ∧ (∀ n : Integer .uint64, r.id = .unsigned n → n.value ≤ IntWidth.int64.max →
            ∃ m : Integer .int64, m.value = n.value ∧ r'.id = .number m)
        ∧ r'.encode = r.encode)
    -- which responses survive
    ∧ ∀ r : Response, decode r.encode = .ok r
        ↔ (r.DropsResult → r.result = none) ∧ r.id.Survives := by
  refine ⟨fun r => encode_v1, fun r e => encode_error, fun r => encode_result, fun r => ?_,
    fun r => ?_⟩
  · refine ⟨r.settle, r.decode_encode, rfl, rfl, rfl, Id.settle_eq_self.2, ?_, ?_, r.encode_settle⟩
    · intro x hx hfinite
      show r.id.settle = .null
      rw [hx, Id.settle_of_not_isFinite hfinite]
    · intro n hn hle
      obtain ⟨m, hm, hsettle⟩ := Id.ofUnsigned_of_le hle
      refine ⟨m, hm, ?_⟩
      show r.id.settle = .number m
      rw [hn]
      exact hsettle
  · rw [decode_encode, Except.ok.injEq, settle_eq_self]

end Response

end NodeRpc
