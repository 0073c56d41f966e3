import NodeRpc.Command.Error

/-!
# Events

The registry and the codec report what they do as events.  `Logged` is a result together with the
events emitted on the way to it, in order; a step that fails keeps the events before it.
-/

namespace NodeRpc

/-- How much an event matters. -/
inductive LogLevel
  | error
  | warn
  | info
  | debug
  | trace
  deriving DecidableEq, Repr

/-- What is reported. -/
inductive Event
  | loggingInitialized (filter : String) (json : Bool)
  | registered (method : String) (fields required : Nat) (flags : UsageFlags)
  | built (methods : Nat)
  | constructed (method : String)
  | marshaled (method : String) (params : Nat)
  | unmarshaled (method : String) (params : Nat)
  deriving DecidableEq, Repr

/-- The value of an event's field. -/
inductive EventValue
  | text (s : String)
  | count (n : Nat)
  | flag (b : Bool)
  deriving DecidableEq, Repr

namespace Event

def level : Event → LogLevel
  | loggingInitialized .. | registered .. | built _ => .debug
  | constructed _ | marshaled .. | unmarshaled .. => .trace

/-- The part of the program that an event comes from. -/
def target : Event → String
  | loggingInitialized .. => "pinjson_core::observability"
  | registered .. | built _ => "pinjson_core::registry"
  | constructed _ | marshaled .. | unmarshaled .. => "pinjson_core::codec"

def message : Event → String
  | loggingInitialized .. => "logging initialized"
  | registered .. => "registered command"
  | built _ => "built command registry"
  | constructed _ => "constructed command"
  | marshaled .. => "marshaled command"
  | unmarshaled .. => "unmarshaled command"

/-- The fields of an event, in order. -/
def fields : Event → List (String × EventValue)
  | loggingInitialized filter json => [("log_level", .text filter), ("json", .flag json)]
  | registered method fields required flags =>
    [("method", .text method), ("fields", .count fields), ("required", .count required),
      ("flags", .text flags.text)]
  | built methods => [("methods", .count methods)]
  | constructed method => [("method", .text method)]
  | marshaled method params => [("method", .text method), ("params", .count params)]
  | unmarshaled method params => [("method", .text method), ("params", .count params)]

/-- The names of an event's fields, its message among them. -/
def fieldNames (e : Event) : List String := "message" :: e.fields.map Prod.fst

end Event

namespace LogLevel

def text : LogLevel → String
  | error => "ERROR"
  | warn => "WARN"
  | info => "INFO"
  | debug => "DEBUG"
  | trace => "TRACE"

end LogLevel

/-- A result and the events emitted on the way to it. -/
structure Logged (α : Type) where
  result : Except CodecError α
  events : List Event

namespace Logged

variable {α β : Type}

/-- A result that nothing is reported about. -/
def quiet (result : Except CodecError α) : Logged α := ⟨result, []⟩

/-- Reports an event. -/
def emit (e : Event) : Logged Unit := ⟨.ok (), [e]⟩

/-- The next step, if there is a value for it. -/
def andThen (x : Logged α) (f : α → Logged β) : Logged β :=
  match x.result with
  | .ok a => ⟨(f a).result, x.events ++ (f a).events⟩
  | .error e => ⟨.error e, x.events⟩

instance : Monad Logged where
  pure a := quiet (.ok a)
  bind := andThen

@[simp] theorem result_pure (a : α) : (pure a : Logged α).result = .ok a := rfl
@[simp] theorem events_pure (a : α) : (pure a : Logged α).events = [] := rfl
@[simp] theorem result_quiet (r : Except CodecError α) : (quiet r).result = r := rfl
@[simp] theorem events_quiet (r : Except CodecError α) : (quiet r).events = [] := rfl
@[simp] theorem result_emit (e : Event) : (emit e).result = .ok () := rfl
@[simp] theorem events_emit (e : Event) : (emit e).events = [e] := rfl

theorem bind_of_ok {x : Logged α} {a : α} (h : x.result = .ok a) (f : α → Logged β) :
    x >>= f = ⟨(f a).result, x.events ++ (f a).events⟩ := by
  simp only [bind, andThen, h]

theorem bind_of_error {x : Logged α} {e : CodecError} (h : x.result = .error e)
    (f : α → Logged β) : x >>= f = ⟨.error e, x.events⟩ := by
  simp only [bind, andThen, h]

@[simp] theorem result_bind (x : Logged α) (f : α → Logged β) :
    (x >>= f).result = x.result >>= fun a => (f a).result := by
  cases h : x.result with
  | ok a => rw [bind_of_ok h]; rfl
  | error e => rw [bind_of_error h]; rfl

end Logged

end NodeRpc
