import NodeRpc.Json.Writer
import NodeRpc.Logging.Filter

/-!
# Logging

`LogConfig` says which events are printed and how; `Logger.install` puts it to work, which can be
done once.  The environment may name a filter, which then goes before the configured one if it
parses.
-/

namespace NodeRpc

/-- Which events are printed, and how. -/
structure LogConfig where
  /-- The text of the filter. -/
  filter : String
  /-- One JSON object per event in place of a line of text. -/
  json : Bool
  target : Bool
  lineNumbers : Bool
  deriving DecidableEq, Repr

namespace LogConfig

/-- The configuration to start from, given the filter that the environment names. -/
def new (env : Option String) : LogConfig := ⟨env.getD "info", false, true, true⟩

def withFilter (c : LogConfig) (text : String) : LogConfig := { c with filter := text }

def withJson (c : LogConfig) (on : Bool) : LogConfig := { c with json := on }

def withTarget (c : LogConfig) (on : Bool) : LogConfig := { c with target := on }

def withLineNumbers (c : LogConfig) (on : Bool) : LogConfig := { c with lineNumbers := on }

/-- The filter in force. -/
def effectiveFilter (c : LogConfig) (env : Option String) : Except FilterError Filter :=
  match env.map Filter.parse with
  | some (.ok filter) => .ok filter
  | _ => Filter.parse c.filter

end LogConfig

/-- Why logging does not start. -/
inductive LogError
  | filter (cause : FilterError)
  | installed
  deriving DecidableEq, Repr

namespace LogError

def message : LogError → String
  | filter cause => cause.message
  | installed => "a global default trace dispatcher has already been set"

end LogError

namespace EventValue

/-- A value in a line of text. -/
def toText : EventValue → String
  | text s => s
  | count n => toString n
  | flag b => toString b

/-- A value in JSON.  Counts are below the 64-bit range. -/
def toJson : EventValue → Json
  | text s => .string s
  | count n =>
    if h : n ≤ 0xffffffffffffffff then .number (.integer n (by omega) (by omega)) else .null
  | flag b => .bool b

end EventValue

/-- What has been put to work. -/
structure Logger where
  config : LogConfig
  filter : Filter
  deriving DecidableEq

namespace Logger

/-- Starts logging, or says why not; a logger that runs already stays. -/
def install (running : Option Logger) (env : Option String) (config : LogConfig) :
    Except LogError Logger × List Event :=
  match config.effectiveFilter env with
  | .error e => (.error (.filter e), [])
  | .ok filter => match running with
    | some _ => (.error .installed, [])
    | none => (.ok ⟨config, filter⟩, [.loggingInitialized config.filter config.json])

/-- An event as a line of text.  `place` is where it was reported. -/
def plainLine (c : LogConfig) (place : String) (e : Event) : String :=
  " ".intercalate ([e.level.text] ++ (if c.target then [e.target ++ ":"] else [])
    ++ (if c.lineNumbers then [place ++ ":"] else []) ++ [e.message]
    ++ e.fields.map fun field => field.1 ++ "=" ++ field.2.toText)

/-- An event as a JSON object.  `place` is where it was reported. -/
def jsonLine (c : LogConfig) (place : String) (e : Event) : Json :=
  .object ([("level", .string e.level.text),
      ("fields", .object (("message", .string e.message)
        :: e.fields.map fun field => (field.1, field.2.toJson)))]
    ++ (if c.target then [("target", .string e.target)] else [])
    ++ (if c.lineNumbers then [("line_number", .string place)] else []))

/-- What is printed of some events, line by line. -/
def lines (logger : Logger) (place : String) (events : List Event) : List Json :=
  (events.filter logger.filter.admits).flatMap fun e =>
    if logger.config.json then [jsonLine logger.config place e]
    else ((plainLine logger.config place e).splitOn "\n").map .string

end Logger

end NodeRpc
