import NodeRpc.Catalog.Chain
import NodeRpc.Proofs.Command.Rows

/-!
# Requests by their slots

* `Sound.marshalRequest_of_writable`   a command with writable slots is written as a request;
* `Sound.receive_paramsOf`             what such a request hands to the decoder;
* `Sound.unmarshalRequest_paramsOf`    a command whose values are typed is read back, filled;
* `Sound.complete_of_read`             what holds of a command that was read.
-/

namespace NodeRpc

namespace Registry

variable {r : Registry} {q : Request} {c : Command}

theorem marshalRequest_eq_ok {version : Version} {id : Id} :
    (r.marshalRequest version id c).result = .ok q ↔
      ∃ d params, r.lookupType c = .ok d ∧ d.params c.slots = .ok params
        ∧ q = ⟨version, d.method, params, id⟩ := by
  unfold marshalRequest
  simp only [Logged.result_bind, Logged.result_quiet, Logged.result_emit, Logged.result_pure]
  constructor
  · intro h
    obtain ⟨d, hd, h⟩ := bind_eq_ok.1 h
    obtain ⟨params, hparams, h⟩ := bind_eq_ok.1 h
    cases h
    exact ⟨d, params, hd, hparams, rfl⟩
  · rintro ⟨d, params, hd, hparams, rfl⟩
    exact bind_eq_ok.2 ⟨d, hd, bind_eq_ok.2 ⟨params, hparams, rfl⟩⟩

theorem receive_eq_ok {given : CommandType × List (Option Json)} :
    (r.receive q).result = .ok given ↔
      ∃ d, r.lookup q.method = .ok d ∧ d.checkCount q.params.length = .ok ()
        ∧ given = (d.type, fillSlots d.fields d.defaults q.params) := by
  unfold receive
  simp only [Logged.result_bind, Logged.result_quiet, Logged.result_emit, Logged.result_pure]
  constructor
  · intro h
    obtain ⟨d, hd, h⟩ := bind_eq_ok.1 h
    obtain ⟨_, hcount, h⟩ := bind_eq_ok.1 h
    cases h
    exact ⟨d, hd, hcount, rfl⟩
  · rintro ⟨d, hd, hcount, rfl⟩
    exact bind_eq_ok.2 ⟨d, hd, bind_eq_ok.2 ⟨(), hcount, rfl⟩⟩

theorem unmarshalRequest_eq_ok :
    (r.unmarshalRequest q).result = .ok c ↔
      ∃ d, r.lookup q.method = .ok d ∧ d.checkCount q.params.length = .ok ()
        ∧ Command.ofSlots d.type (fillSlots d.fields d.defaults q.params) = .ok c := by
  unfold unmarshalRequest
  rw [Logged.result_bind]
  constructor
  · intro h
    obtain ⟨⟨t, given⟩, hreceive, h⟩ := bind_eq_ok.1 h
    obtain ⟨d, hd, hcount, hgiven⟩ := receive_eq_ok.1 hreceive
    cases hgiven
    exact ⟨d, hd, hcount, h⟩
  · rintro ⟨d, hd, hcount, h⟩
    exact bind_eq_ok.2 ⟨_, receive_eq_ok.2 ⟨d, hd, hcount, rfl⟩, h⟩

theorem unmarshalRequest_of_receive {t : CommandType} {given : List (Option Json)}
    (h : (r.receive q).result = .ok (t, given)) :
    (r.unmarshalRequest q).result = Command.ofSlots t given := by
  unfold unmarshalRequest
  rw [Logged.result_bind, h]
  rfl

theorem newCommand_eq_ok {method : String} {args : List Json} :
    (r.newCommand method args).result = .ok c ↔
      ∃ d given, r.lookup method = .ok d ∧ d.checkCount args.length = .ok ()
        ∧ coerceArgs 0 d.fields args = .ok given ∧ Command.ofSlots d.type given = .ok c := by
  unfold newCommand
  simp only [Logged.result_bind, Logged.result_quiet, Logged.result_emit]
  constructor
  · intro h
    obtain ⟨d, hd, h⟩ := bind_eq_ok.1 h
    obtain ⟨_, hcount, h⟩ := bind_eq_ok.1 h
    obtain ⟨given, hgiven, h⟩ := bind_eq_ok.1 h
    obtain ⟨_, _, h⟩ := bind_eq_ok.1 h
    exact ⟨d, given, hd, hcount, hgiven, h⟩
  · rintro ⟨d, given, hd, hcount, hgiven, h⟩
    exact bind_eq_ok.2 ⟨d, hd, bind_eq_ok.2 ⟨(), hcount, bind_eq_ok.2 ⟨given, hgiven,
      bind_eq_ok.2 ⟨(), rfl, h⟩⟩⟩⟩

theorem Sound.marshalRequest_of_writable (hr : r.Sound) (hc : c.type ∈ r.names.map Prod.fst)
    (hw : Writable c.type.fields c.slots) (version : Version) (id : Id) :
    ∃ d ∈ r.methods, d.type = c.type
      ∧ (r.marshalRequest version id c).result = .ok ⟨version, d.method, paramsOf c.slots, id⟩ := by
  obtain ⟨d, hd, htype, hlookup⟩ := hr.lookupType_of_mem hc
  refine ⟨d, hd, htype, marshalRequest_eq_ok.2 ⟨d, _, hlookup, ?_, rfl⟩⟩
  rw [← htype] at hw
  exact Descriptor.params_eq_ok.2 ⟨hw, rfl⟩

theorem Sound.writable_of_marshalRequest (hr : r.Sound) (hc : c.type ∈ r.names.map Prod.fst)
    {version : Version} {id : Id} (h : (r.marshalRequest version id c).result = .ok q) :
    Writable c.type.fields c.slots := by
  obtain ⟨d, params, hlookup, hparams, _⟩ := marshalRequest_eq_ok.1 h
  obtain ⟨e, _, htype, he⟩ := hr.lookupType_of_mem hc
  rw [hlookup] at he
  cases he
  rw [← htype]
  exact (Descriptor.params_eq_ok.1 hparams).1

theorem Sound.checkCount_length (hr : r.Sound) {d : Descriptor} (hd : d ∈ r.methods)
    {received : Nat} (h : received = d.fields.length) : d.checkCount received = .ok () := by
  unfold Descriptor.checkCount
  rw [hr.required_eq hd, h, if_pos ⟨List.countP_le_length, Nat.le_refl _⟩]

theorem Sound.receive_paramsOf (hr : r.Sound) {d : Descriptor} (hd : d ∈ r.methods)
    {slots : List (Option Json)} (hw : Writable d.fields slots) (version : Version) (id : Id) :
    (r.receive ⟨version, d.method, paramsOf slots, id⟩).result
      = .ok (d.type, List.zipWith Field.received d.fields slots) := by
  refine receive_eq_ok.2 ⟨d, hr.lookup_of_mem hd, ?_, ?_⟩
  · have hlow := hw.required_le (hr.descriptors d hd).1.requiredFirst
    have hhigh := length_paramsOf_le slots
    unfold Descriptor.checkCount
    rw [hr.required_eq hd, if_pos ⟨hlow, hw.length ▸ hhigh⟩]
  · rw [hr.defaults_eq hd, hw.fillSlots_paramsOf]

/-- A command is written exactly when it has one slot for each field and no required one is absent;
the parameters end at the last present slot.  The request passes the lookup and the count, and the
decoder of the type is handed the slots again, with defaults for what was absent or null. -/
theorem Reachable.request_slots (hr : r.Reachable) (hc : c.type ∈ r.names.map Prod.fst)
    (version : Version) (id : Id) :
    ((∃ q, (r.marshalRequest version id c).result = .ok q) ↔ Writable c.type.fields c.slots)
    ∧ ∀ q, (r.marshalRequest version id c).result = .ok q →
      q.version = version ∧ q.id = id ∧ Spells c.slots q.params
      ∧ (∃ d, r.lookup q.method = .ok d ∧ d.type = c.type
          ∧ d.checkCount q.params.length = .ok ())
      ∧ (r.receive q).result
          = .ok (c.type, List.zipWith Field.received c.type.fields c.slots)
      ∧ (r.unmarshalRequest q).result
          = Command.ofSlots c.type (List.zipWith Field.received c.type.fields c.slots) := by
  have hsound := hr.sound
  refine ⟨⟨fun ⟨q, hq⟩ => hsound.writable_of_marshalRequest hc hq, fun hw => ?_⟩, fun q hq => ?_⟩
  · obtain ⟨d, _, _, hq⟩ := hsound.marshalRequest_of_writable hc hw version id
    exact ⟨_, hq⟩
  · have hw := hsound.writable_of_marshalRequest hc hq
    obtain ⟨d, hd, htype, hd'⟩ := hsound.marshalRequest_of_writable hc hw version id
    rw [hq] at hd'
    cases hd'
    have hreceive := hsound.receive_paramsOf hd (htype ▸ hw) version id
    obtain ⟨e, hlookup, hcount, _⟩ := receive_eq_ok.1 hreceive
    have he : e = d := by
      rw [hsound.lookup_of_mem hd] at hlookup
      cases hlookup
      rfl
    subst he
    unfold Descriptor.fields at hreceive
    rw [htype] at hreceive
    exact ⟨rfl, rfl, spells_paramsOf c.slots, ⟨e, hlookup, htype, hcount⟩, hreceive,
      unmarshalRequest_of_receive hreceive⟩

/-- A gap is written as null, and both it and the null are read as the default. -/
theorem request_slots_getNetworkHashPs :
    let t := Catalog.getNetworkHashPs
    let c : Command := ⟨t, (none, some ⟨5, by decide, by decide⟩, ())⟩
    let r := Registry.empty.add (t.descriptor t.method t.flags)
    ∃ q, (r.marshalRequest .v1 .null c).result = .ok q ∧ Spells c.slots q.params
      ∧ (r.unmarshalRequest q).result
        = .ok ⟨t, (some ⟨120, by decide, by decide⟩, some ⟨5, by decide, by decide⟩, ())⟩ := by
  intro t c r
  have hfits : Fits .start t.fields := Fits.of_isOk (by decide +kernel)
  have hr : r.Reachable := .registerAs .empty (registerAs_eq_ok.2 ⟨rfl, by decide, hfits, rfl⟩)
  obtain ⟨hok, hall⟩ := hr.request_slots (c := c) List.mem_cons_self .v1 .null
  obtain ⟨q, hq⟩ := hok.2 ((unsetField?_eq_none 0 rfl).1 (by decide))
  obtain ⟨_, _, hspells, _, _, hread⟩ := hall q hq
  refine ⟨q, hq, hspells, hread.trans ?_⟩
  decide +kernel

/-! ## Typed commands -/

theorem Sound.unmarshalRequest_paramsOf (hr : r.Sound) {d : Descriptor} (hd : d ∈ r.methods)
    (htype : d.type = c.type) (ht : c.type.representation = .typed) (hl : Legible c.type.fields)
    (hf : c.FloatsFinite) (ha : c.AmountsSurvive) (version : Version) (id : Id) :
    (r.unmarshalRequest ⟨version, d.method, paramsOf c.slots, id⟩).result = .ok c.fill := by
  have hw := Command.writable ht
  rw [← htype] at hw
  rw [unmarshalRequest_of_receive (hr.receive_paramsOf hd hw version id)]
  unfold Descriptor.fields
  rw [htype]
  exact Command.ofSlots_received ht hl hf ha

/-- A command that was read is of the type of its method, complete, and without infinite floats. -/
theorem Sound.complete_of_read (hr : r.Sound) (h : (r.unmarshalRequest q).result = .ok c)
    (hl : ∀ d ∈ r.methods, Legible d.fields) :
    ∃ d ∈ r.methods, d.method = q.method ∧ d.type = c.type ∧ c.Complete ∧ c.FloatsFinite := by
  obtain ⟨d, hlookup, _, h⟩ := unmarshalRequest_eq_ok.1 h
  obtain ⟨hd, hmethod⟩ := mem_of_lookup hlookup
  rw [hr.defaults_eq hd] at h
  exact ⟨d, hd, hmethod, Command.type_of_ofSlots h,
    Command.complete_of_ofSlots (hl d hd) (length_fillSlots _ _ _) (received_fillSlots _ _) h,
    Command.floatsFinite_of_ofSlots (hl d hd) h⟩

end Registry

end NodeRpc
