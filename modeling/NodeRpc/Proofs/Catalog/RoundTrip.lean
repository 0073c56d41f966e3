import NodeRpc.Proofs.Catalog.Tables
import NodeRpc.Proofs.Registry.Requests

/-!
# Commands of the catalog read back

* `Standard.marshalRequest_eq`    what a command of the catalog is written as;
* `Standard.unmarshalRequest_eq`  it is read as the command, filled;
* `Standard.complete_of_read`     what holds of a command that was read;
* `Standard.normalize`            a request decoded and encoded again.

So commands are read back, and a request that is read has a normal form.
-/

namespace NodeRpc

namespace Standard

variable {c : Command} {q : Request}

theorem descriptor_of_mem (hc : c.type ∈ Catalog.types) :
    ∃ r d, registry = .ok r ∧ r.Sound ∧ d ∈ r.methods ∧ d.type = c.type
      ∧ d.method = c.type.method ∧ r.lookupType c = .ok d := by
  obtain ⟨r, hr, hreachable, htypes, hmethods⟩ := registry_ok
  obtain ⟨d, hd, htype, hlookup⟩ := hreachable.sound.lookupType_of_mem (htypes c.type hc).2
  exact ⟨r, d, hr, hreachable.sound, hd, htype, htype ▸ (hmethods d hd).2, hlookup⟩

theorem marshalRequest_eq (hc : c.type ∈ Catalog.types) (version : Version) (id : Id) :
    marshalRequest version id c = .ok ⟨version, c.type.method, paramsOf c.slots, id⟩ := by
  obtain ⟨r, d, hr, _, _, htype, hmethod, hlookup⟩ := descriptor_of_mem hc
  have hw := Command.writable (Catalog.sound_of_mem hc).typed
  rw [← htype] at hw
  rw [← hmethod]
  exact bind_eq_ok.2 ⟨r, hr, Registry.marshalRequest_eq_ok.2
    ⟨d, _, hlookup, Descriptor.params_eq_ok.2 ⟨hw, rfl⟩, rfl⟩⟩

theorem unmarshalRequest_eq (hc : c.type ∈ Catalog.types) (hf : c.FloatsFinite)
    (ha : c.AmountsSurvive) (version : Version) (id : Id) :
    unmarshalRequest ⟨version, c.type.method, paramsOf c.slots, id⟩ = .ok c.fill := by
  obtain ⟨r, d, hr, hsound, hd, htype, hmethod, _⟩ := descriptor_of_mem hc
  rw [← hmethod]
  exact bind_eq_ok.2 ⟨r, hr, hsound.unmarshalRequest_paramsOf hd htype
    (Catalog.sound_of_mem hc).typed (Catalog.legible_of_mem hc) hf ha version id⟩

theorem complete_of_read (h : unmarshalRequest q = .ok c) :
    c.type ∈ Catalog.types ∧ c.type.method = q.method ∧ c.Complete ∧ c.FloatsFinite := by
  obtain ⟨r, hr, hreachable, _, hmethods⟩ := registry_ok
  obtain ⟨r', hr', h⟩ := bind_eq_ok.1 h
  rw [hr] at hr'
  cases hr'
  obtain ⟨d, hd, hmethod, htype, hcomplete, hfinite⟩ := hreachable.sound.complete_of_read h
    fun d hd => Catalog.legible_of_mem (hmethods d hd).1
  rw [← htype]
  exact ⟨(hmethods d hd).1, (hmethods d hd).2.symm.trans hmethod, hcomplete, hfinite⟩

/-- Every command of the catalog is written, and its request is read as the command, but for an
unset field with a default, which is read as the default, and a fee guard that says nothing, which
is read as the flag `false`. -/
theorem unmarshal_marshal (hc : c.type ∈ Catalog.types) (hf : c.FloatsFinite)
    (ha : c.AmountsSurvive) (version : Version) (id : Id) :
    ∃ q, marshalRequest version id c = .ok q
      ∧ q.version = version ∧ q.id = id ∧ q.method = c.type.method
      ∧ unmarshalRequest q = .ok c.fill ∧ c.fill.type = c.type ∧ (c.Complete → c.fill = c) := by
  have hmarshal := marshalRequest_eq hc version id
  have hread := unmarshalRequest_eq hc hf ha version id
  refine ⟨_, hmarshal, rfl, rfl, rfl, hread, rfl, fun hcomplete => ?_⟩
  exact Command.fill_eq_self (Catalog.legible_of_mem hc) hcomplete

/-- A fee guard that says nothing is sent as the flag that it is read as. -/
theorem unmarshal_marshal_unset :
    let c : Command := ⟨Catalog.sendRawTransaction, ("00", some .unset, ())⟩
    c.type ∈ Catalog.types ∧ c.FloatsFinite ∧ c.AmountsSurvive
      ∧ ∃ q, marshalRequest .v1 .null c = .ok q ∧ unmarshalRequest q
        = .ok ⟨Catalog.sendRawTransaction, ("00", some (.allowHighFees false), ())⟩ := by
  intro c
  have hc : c.type ∈ Catalog.types := by decide +kernel
  have hf : c.FloatsFinite := ⟨trivial, fun _ _ => trivial, trivial⟩
  have ha : c.AmountsSurvive := ⟨trivial, fun _ _ => trivial, trivial⟩
  obtain ⟨q, hq, _, _, _, hread, _⟩ := unmarshal_marshal hc hf ha .v1 .null
  exact ⟨hc, hf, ha, q, hq, hread⟩

/-! ## Normal forms -/

/-- The command that a request carries, written again with the version and the id of the request. -/
def normalize (q : Request) : Except CodecError Request := do
  marshalRequest q.version q.id (← unmarshalRequest q)

/-- A request that is read has a normal form, which is read as the same command and is its own
normal form. -/
theorem normalize_normal (h : unmarshalRequest q = .ok c)
    (ha : c.type = Catalog.walletCreateFundedPsbt → c.AmountsSurvive) :
    ∃ n, normalize q = .ok n ∧ n.method = q.method ∧ n.version = q.version ∧ n.id = q.id
      ∧ unmarshalRequest n = .ok c ∧ normalize n = .ok n := by
  obtain ⟨hc, hmethod, hcomplete, hfinite⟩ := complete_of_read h
  have hamounts : c.AmountsSurvive := by
    by_cases htype : c.type = Catalog.walletCreateFundedPsbt
    · exact ha htype
    · exact Command.amountsSurvive_of_not_pays ((Catalog.sound_of_mem hc).pays htype)
  have hmarshal := marshalRequest_eq hc q.version q.id
  have hunmarshal := unmarshalRequest_eq hc hfinite hamounts q.version q.id
  rw [Command.fill_eq_self (Catalog.legible_of_mem hc) hcomplete] at hunmarshal
  refine ⟨⟨q.version, c.type.method, paramsOf c.slots, q.id⟩, ?_, hmethod, rfl, rfl, hunmarshal, ?_⟩
  · exact bind_eq_ok.2 ⟨c, h, hmarshal⟩
  · exact bind_eq_ok.2 ⟨c, hunmarshal, hmarshal⟩

/-- A gap is filled with the default. -/
theorem normalize_normal_gap :
    let q : Request :=
      ⟨.v2, "getnetworkhashps", [.null, .ofInteger (w := .int32) ⟨5, by decide, by decide⟩], .null⟩
    ∃ c n, unmarshalRequest q = .ok c ∧ c.type = Catalog.getNetworkHashPs
      ∧ normalize q = .ok n ∧ unmarshalRequest n = .ok c ∧ normalize n = .ok n := by
  intro q
  let c : Command := ⟨Catalog.getNetworkHashPs, (none, some ⟨5, by decide, by decide⟩, ())⟩
  have hc : c.type ∈ Catalog.types := by decide +kernel
  have hf : c.FloatsFinite := ⟨fun _ _ => trivial, fun _ _ => trivial, trivial⟩
  have ha : c.AmountsSurvive := ⟨fun _ _ => trivial, fun _ _ => trivial, trivial⟩
  have hq : unmarshalRequest q = .ok c.fill := unmarshalRequest_eq hc hf ha .v2 .null
  obtain ⟨n, hn, _, _, _, hread, hnormal⟩ := normalize_normal hq fun h => absurd h (by decide)
  exact ⟨c.fill, n, hq, rfl, hn, hread, hnormal⟩

end Standard

end NodeRpc
