import NodeRpc.Logging.Event
import NodeRpc.Text.Classes

/-!
# Directives

A directive of a filter is a level for everything, or `target[span{field}]=level` for the events
whose target starts with a text; the brackets and what is in them may be missing.

Blanks around a directive count for where its parts are cut but not for finding the marks between
them, so that a level with a blank is read as a target.  `Cursor` keeps both texts in step.
-/

namespace NodeRpc

/-- Why a filter does not parse. -/
inductive FilterError
  | directive
  | level
  deriving DecidableEq, Repr

namespace FilterError

def message : FilterError → String
  | directive => "invalid filter directive"
  | level => "error parsing level filter: expected one of \"off\", \"error\", \"warn\", \"info\", "
    ++ "\"debug\", \"trace\", or a number 0-5"

end FilterError

namespace LogLevel

/-- Zero for the level that matters most. -/
def rank : LogLevel → Nat
  | error => 0
  | warn => 1
  | info => 2
  | debug => 3
  | trace => 4

end LogLevel

/-- The most verbose level let through, or none to let nothing through. -/
abbrev Threshold := Option LogLevel

namespace Threshold

/-- Whether a threshold lets a level through. -/
def admits (threshold : Threshold) (level : LogLevel) : Bool :=
  match threshold with
  | some most => level.rank ≤ most.rank
  | none => false

/-- The number that digits write, after a plus sign or none. -/
def number? (word : List Char) : Option Nat :=
  let digits := match word with
    | '+' :: digits => digits
    | digits => digits
  if digits.isEmpty || !digits.all Char.isDigit then none
  else some (digits.foldl (fun n c => 10 * n + (c.toNat - '0'.toNat)) 0)

/-- The threshold that lets that many levels through. -/
def ofNumber? : Nat → Option Threshold
  | 0 => some none
  | 1 => some (some .error)
  | 2 => some (some .warn)
  | 3 => some (some .info)
  | 4 => some (some .debug)
  | 5 => some (some .trace)
  | _ => none

/-- The threshold of a name, in any case. -/
def ofName? (word : List Char) : Option Threshold :=
  match String.ofList (word.map Char.toLower) with
  | "off" => some none
  | "error" => some (some .error)
  | "warn" => some (some .warn)
  | "info" => some (some .info)
  | "debug" => some (some .debug)
  | "trace" => some (some .trace)
  | _ => none

/-- A threshold by number or by name. -/
def ofWord? (word : List Char) : Option Threshold :=
  match number? word with
  | some n => ofNumber? n
  | none => ofName? word

end Threshold

/-- Which events a directive is about, beside their target. -/
inductive Scope
  | anywhere
  | withField (name : List Char)
  /-- Events inside a span, of which there are none. -/
  | inSpan
  deriving DecidableEq

/-- A directive: a threshold for the events in its scope whose target starts with a text. -/
structure Directive where
  target : Option (List Char)
  scope : Scope
  threshold : Threshold
  deriving DecidableEq

/-- A text without the blanks at its ends. -/
def trimmed (text : List Char) : List Char :=
  ((text.dropWhile whitespaceCodes.has).reverse.dropWhile whitespaceCodes.has).reverse

/-- A text divided after a number of bytes; a character that this would split goes before. -/
def divideAt : Nat → List Char → List Char × List Char
  | 0, text => ([], text)
  | _ + 1, [] => ([], [])
  | n + 1, c :: text =>
    let (before, after) := divideAt (n + 1 - c.utf8Size) text
    (c :: before, after)

/-- A place in a directive: what follows in its text without the blanks around it, and what follows
the same number of bytes in its text as it stands. -/
structure Cursor where
  inner : List Char
  given : List Char

namespace Cursor

/-- The part of the given text before the next mark, and the place of the mark. -/
def part (isMark : Char → Bool) (p : Cursor) : List Char × Cursor :=
  let (word, inner) := p.inner.span fun c => !isMark c
  let (part, given) := divideAt (String.ofList word).utf8ByteSize p.given
  (part, ⟨inner, given⟩)

/-- The mark at a place, and the place after it. -/
def next? (p : Cursor) : Option (Char × Cursor) :=
  match p.inner with
  | [] => none
  | c :: inner => some (c, ⟨inner, (divideAt c.utf8Size p.given).2⟩)

end Cursor

namespace Directive

/-- Whether a directive may start with a character, if not with a bracket. -/
def mayStart (c : Char) : Bool := alphanumericCodes.has c || c = '-' || c = ':' || c = '_'

/-- The threshold after the equals sign; where nothing follows, everything is let through. -/
def level (text : List Char) : Except FilterError Threshold :=
  if text.isEmpty then .ok (some .trace)
  else match Threshold.ofWord? text with
    | some t => .ok t
    | none => .error .level

/-- The end of a directive: an equals sign and a level, or nothing. -/
def finish (target : Option (List Char)) (scope : Scope) (p : Cursor) :
    Except FilterError Directive :=
  match p.next? with
  | none => .ok ⟨target, scope, some .trace⟩
  | some ('=', p) => (level p.given).map (⟨target, scope, ·⟩)
  | some _ => .error .directive

/-- A field in braces.  With a value, or in a span that is named, it is looked for in spans. -/
def field (target : Option (List Char)) (span : List Char) (p : Cursor) :
    Except FilterError Directive :=
  let (field, p) := p.part (· = '\x7d')
  match field, p.inner with
  | _ :: _, '\x7d' :: ']' :: inner =>
    finish target (if span.isEmpty && !field.contains '=' then .withField field else .inSpan)
      ⟨inner, (divideAt 2 p.given).2⟩
  | _, _ => .error .directive

/-- What follows an opening bracket. -/
def bracket (target : Option (List Char)) (p : Cursor) : Except FilterError Directive :=
  let (span, p) := p.part fun c => c = ']' || c = '\x7b'
  match p.next? with
  | some (']', p) => finish target .inSpan p
  | some (_, p) => field target span p
  | none => .error .directive

/-- A directive from its text.  A target without a level lets everything through. -/
def parse (text : List Char) : Except FilterError Directive :=
  match trimmed text with
  | [] => .error .directive
  | '[' :: inner => bracket none ⟨inner, (divideAt 1 text).2⟩
  | c :: inner =>
    if !mayStart c then .error .directive
    else
      let (target, p) := Cursor.part (fun c => c = '=' || c = '[') ⟨c :: inner, text⟩
      match p.next? with
      | some ('[', p) => bracket (some target) p
      | some _ => finish (some target) .anywhere p
      | none => match Threshold.ofWord? text with
        | some t => .ok ⟨none, .anywhere, t⟩
        | none => .ok ⟨some text, .anywhere, some .trace⟩

/-- Whether a directive is about an event. -/
def about (d : Directive) (e : Event) : Bool :=
  (match d.target with
    | none => true
    | some start => start.isPrefixOf e.target.toList)
  && match d.scope with
    | .anywhere => true
    | .withField name => e.fieldNames.contains (String.ofList name)
    | .inSpan => false

/-- How specific a target is: zero if it is missing. -/
def weight (d : Directive) : Nat :=
  match d.target with
  | none => 0
  | some start => start.length + 1

/-- Whether a directive goes before another about the same event: by the longer target, then by a
field over none, then by the later name of the field. -/
def outweighs (d other : Directive) : Bool :=
  if d.weight ≠ other.weight then other.weight < d.weight
  else match d.scope, other.scope with
    | .withField a, .withField b => b < a
    | .withField _, _ => true
    | _, _ => false

end Directive

end NodeRpc
