import NodeRpc.Proofs.Registry.Building

/-!
# What is reported over whole runs

A run is a sequence of calls, each on a registry that an earlier call made or on an empty one.  A
call reports one event or none.  A request is reported when it is received, before anything is
decoded; every other call is reported for its success.  The event of a command that is built from
arguments comes before the slots are decoded, too: it tells of a success because slots that were
filled by arguments always decode, in every registry that a run can come to.

* `Logged.ReportsSuccess`          one event if a step succeeds, none if it fails;
* `Sound.newCommand_reports`       so it is for commands that are built;
* `unmarshalRequest_reports`       what is reported of a request;
* `Registry.run`, `Registry.log`   the calls of a run, and its events;
* `reachable_of_mem_run`           the registries of a run are those that registrations lead to;
* `run_reports`                    what the events of a run tell.
-/

namespace NodeRpc

namespace Logged

variable {α β : Type}

/-- Whether a step reports one event if it succeeds, which `told` gives for its result, and nothing
if it fails. -/
structure ReportsSuccess (x : Logged α) (told : α → Event) : Prop where
  ok : ∀ a, x.result = .ok a → x.events = [told a]
  error : ∀ e, x.result = .error e → x.events = []

theorem ReportsSuccess.quiet_bind {x : Except CodecError β} {f : β → Logged α} {told : α → Event}
    (h : ∀ b, x = .ok b → (f b).ReportsSuccess told) : (quiet x >>= f).ReportsSuccess told := by
  cases x with
  | error e => exact ⟨fun _ hok => (nomatch hok), fun _ _ => rfl⟩
  | ok b => exact h b rfl

theorem ReportsSuccess.emit_bind {x : Except CodecError α} {told : α → Event} {e : Event} {a : α}
    (hx : x = .ok a) (he : told a = e) : (emit e >>= fun _ => quiet x).ReportsSuccess told := by
  subst hx he
  refine ⟨fun b hb => ?_, fun _ herror => (nomatch herror)⟩
  cases hb
  rfl

/-- What follows without a report adds no event, whether it succeeds or not. -/
theorem events_bind_quiet (x : Logged α) (f : α → Except CodecError β) :
    (x >>= fun a => quiet (f a)).events = x.events := by
  cases h : x.result with
  | ok a =>
    rw [bind_of_ok h]
    exact List.append_nil _
  | error e => rw [bind_of_error h]

end Logged

theorem Event.level_eq (e : Event) : e.level = .debug ∨ e.level = .trace := by
  cases e with
  | loggingInitialized | registered | built => exact .inl rfl
  | constructed | marshaled | unmarshaled => exact .inr rfl

namespace Registry

variable {r : Registry}

/-! ## One call -/

theorem registerAs_reports (r : Registry) (t : CommandType) (method : String) (flags : UsageFlags) :
    let d := t.descriptor method flags
    (r.registerAs t method flags).ReportsSuccess
      fun _ => .registered method d.fields.length d.required flags := by
  intro d
  unfold registerAs
  split
  · exact ⟨fun _ hok => (nomatch hok), fun _ _ => rfl⟩
  split
  · exact ⟨fun _ hok => (nomatch hok), fun _ _ => rfl⟩
  exact .quiet_bind fun defaults _ => .emit_bind rfl rfl

/-- A command that is built is reported.  The slots that its arguments fill always decode. -/
theorem Sound.newCommand_reports (hr : r.Sound) (method : String) (args : List Json) :
    (r.newCommand method args).ReportsSuccess fun _ => .constructed method := by
  unfold newCommand
  refine .quiet_bind fun d hlookup => .quiet_bind fun _ hcount => .quiet_bind fun slots hslots => ?_
  have hd : d ∈ r.methods := (mem_of_lookup hlookup).1
  have hn : d.InRange args.length := Descriptor.checkCount_eq_ok.1 hcount
  obtain ⟨c, hc⟩ := (hr.covered_of_inRange hd hn).built_of_coerced hslots
  exact .emit_bind hc rfl

theorem marshalRequest_reports (r : Registry) (version : Version) (id : Id) (c : Command) :
    (r.marshalRequest version id c).ReportsSuccess
      fun q => .marshaled q.method q.params.length := by
  unfold marshalRequest
  exact .quiet_bind fun d _ => .quiet_bind fun params _ => .emit_bind rfl rfl

theorem receive_eq (r : Registry) (q : Request) :
    r.receive q = do
      let d ← Logged.quiet (r.select q.method q.params.length)
      Logged.emit (.unmarshaled d.method q.params.length)
      return (d.type, fillSlots d.fields d.defaults q.params) := by
  unfold receive select
  cases r.lookup q.method with
  | error e => rfl
  | ok d =>
    show (Logged.quiet (d.checkCount q.params.length) >>= fun _ => _)
      = Logged.quiet (d.checkCount q.params.length >>= fun _ => .ok d) >>= _
    cases d.checkCount q.params.length with
    | error e => rfl
    | ok _ => rfl

/-- A request reports that it was received, whether or not its parameters decode. -/
theorem unmarshalRequest_events (r : Registry) (q : Request) :
    (r.unmarshalRequest q).events = (r.receive q).events :=
  Logged.events_bind_quiet (r.receive q) fun given => Command.ofSlots given.1 given.2

/-- Whether a request is for a registered method, with a number of parameters that it takes. -/
def Admits (r : Registry) (q : Request) : Prop :=
  ∃ d, r.descriptor? q.method = some d ∧ d.InRange q.params.length

theorem unmarshalRequest_reports (r : Registry) (q : Request) :
    (r.Admits q → (r.unmarshalRequest q).events = [.unmarshaled q.method q.params.length])
    ∧ (¬ r.Admits q → (r.unmarshalRequest q).events = []) := by
  rw [unmarshalRequest_events, receive_eq]
  have hselected := r.selection_select q.method q.params.length
  generalize r.select q.method q.params.length = selected at hselected
  cases hselected with
  | unregistered hnone =>
    refine ⟨fun ⟨d, hd, _⟩ => ?_, fun _ => rfl⟩
    rw [hnone] at hd
    cases hd
  | count hd hn =>
    refine ⟨fun ⟨d', hd', hn'⟩ => ?_, fun _ => rfl⟩
    rw [hd] at hd'
    cases hd'
    exact absurd hn' hn
  | @selected d hd hn =>
    have hmethod : d.method = q.method := of_decide_eq_true (List.find?_some hd :)
    refine ⟨fun _ => ?_, fun hnot => absurd ⟨d, hd, hn⟩ hnot⟩
    show [Event.unmarshaled d.method q.params.length] = _
    rw [hmethod]

theorem admits_of_failsWith_invalidType {q : Request}
    (h : FailsWith (r.unmarshalRequest q).result .invalidType) : r.Admits q := by
  rw [unmarshalRequest_eq] at h
  rcases r.select_cases q.method q.params.length with ⟨e, he, hcode⟩ | ⟨d, hd, hn, _⟩
  · rw [he] at h
    exact absurd (failsWith_error.1 h) hcode
  · exact ⟨d, hd, hn⟩

/-! ## Runs -/

inductive Call
  | register (x : Registration)
  | build
  | newCommand (method : String) (args : List Json)
  | marshal (version : Version) (id : Id) (c : Command)
  | unmarshal (q : Request)

namespace Call

def events (r : Registry) : Call → List Event
  | register x => (r.registerAs x.type x.method x.flags).events
  | build => r.build.events
  | newCommand method args => (r.newCommand method args).events
  | marshal version id c => (r.marshalRequest version id c).events
  | unmarshal q => (r.unmarshalRequest q).events

def made? (r : Registry) : Call → Option Registry
  | register x => (r.registerAs x.type x.method x.flags).result.toOption
  | build => r.build.result.toOption
  | newCommand .. | marshal .. | unmarshal _ => none

theorem reachable_of_made (hr : r.Reachable) {call : Call} {r' : Registry}
    (h : call.made? r = some r') : r'.Reachable := by
  cases call with
  | register x =>
    cases hstep : (r.registerAs x.type x.method x.flags).result with
    | ok made =>
      rw [made?, hstep] at h
      cases h
      exact hr.registerAs hstep
    | error e =>
      rw [made?, hstep] at h
      cases h
  | build =>
    cases h
    exact hr
  | newCommand | marshal | unmarshal => cases h

end Call

/-- The calls of a run, each with the registry that it is made on: the one at its place among those
made before, or an empty one if there is none.  A registry can be called again and again. -/
def run (made : List Registry) : List (Nat × Call) → List (Registry × Call)
  | [] => []
  | (place, call) :: calls =>
    let r := made.getD place .empty
    (r, call) :: run (made ++ (call.made? r).toList) calls

def log (calls : List (Nat × Call)) : List Event :=
  (run [] calls).flatMap fun (r, call) => call.events r

theorem reachable_of_mem_run {made : List Registry} (hmade : ∀ r ∈ made, r.Reachable)
    {calls : List (Nat × Call)} {call : Call} (h : (r, call) ∈ run made calls) : r.Reachable := by
  induction calls generalizing made with
  | nil => cases h
  | cons first calls ih =>
    obtain ⟨place, first⟩ := first
    have hfirst : (made.getD place .empty).Reachable := by
      rw [List.getD_eq_getElem?_getD]
      cases hplace : made[place]? with
      | none => exact .empty
      | some r => exact hmade r (List.mem_of_getElem? hplace)
    rcases List.mem_cons.1 h with heq | hrest
    · cases heq
      exact hfirst
    · refine ih (List.forall_mem_append.2 ⟨hmade, fun r' hr' => ?_⟩) hrest
      exact Call.reachable_of_made hfirst (Option.mem_toList.1 hr')

/-- What the events of a run tell.  All are for debugging or tracing.  A registration is reported by
one event if it succeeds and not if it fails, and so are a command that is built and one that is
written; a request is reported exactly when it is admitted, also if one of its parameters then does
not decode.  The numbers are those of the descriptor that is added, of the methods of the registry,
of the parameters written, and of the parameters received. -/
theorem run_reports (calls : List (Nat × Call)) :
    (∀ e ∈ log calls, e.level = .debug ∨ e.level = .trace)
    ∧ ∀ r call, (r, call) ∈ run [] calls → match call with
      | .register x => ∃ d : Descriptor,
        (∀ r', (r.registerAs x.type x.method x.flags).result = .ok r' →
          r'.descriptor? x.method = some d)
        ∧ (r.registerAs x.type x.method x.flags).ReportsSuccess
          fun _ => .registered x.method d.fields.length d.required x.flags
      | .build => r.build.ReportsSuccess (fun r' => .built r'.size) ∧ r.build.result = .ok r
      | .newCommand method args =>
        (r.newCommand method args).ReportsSuccess fun _ => .constructed method
      | .marshal version id c =>
        (r.marshalRequest version id c).ReportsSuccess fun q => .marshaled q.method q.params.length
      | .unmarshal q =>
        (r.Admits q → (r.unmarshalRequest q).events = [.unmarshaled q.method q.params.length])
        ∧ (¬ r.Admits q → (r.unmarshalRequest q).events = [])
        ∧ (FailsWith (r.unmarshalRequest q).result .invalidType → r.Admits q) := by
  refine ⟨fun e _ => e.level_eq, fun r call hmem => ?_⟩
  have hr : r.Reachable := reachable_of_mem_run (List.forall_mem_nil _) hmem
  cases call with
  | register x =>
    refine ⟨x.descriptor, fun r' hr' => ?_, r.registerAs_reports x.type x.method x.flags⟩
    have hsound := hr.sound.registerAs hr'
    obtain ⟨_, _, _, rfl⟩ := registerAs_eq_ok.1 hr'
    exact hsound.descriptor?_of_mem (List.mem_append_right _ (List.mem_singleton_self _))
  | build => exact ⟨.emit_bind rfl rfl, rfl⟩
  | newCommand method args => exact hr.sound.newCommand_reports method args
  | marshal version id c => exact r.marshalRequest_reports version id c
  | unmarshal q =>
    obtain ⟨hadmitted, hnot⟩ := r.unmarshalRequest_reports q
    exact ⟨hadmitted, hnot, admits_of_failsWith_invalidType⟩

/-- A registration that is refused is not reported, nor is a command of an unknown method; a request
is, although its second parameter is no integer. -/
example :
    let t := Catalog.getNetworkHashPs
    log [(0, .register (.declared t)), (0, .register (.declared t)), (0, .build),
        (0, .unmarshal ⟨.v1, t.method, [.null, .string "x"], .null⟩),
        (9, .newCommand t.method [])]
      = [.registered t.method 2 0 .none, .built 1, .unmarshaled t.method 2] := by
  decide +kernel

end Registry

end NodeRpc
