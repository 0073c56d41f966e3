import NodeRpc.Logging.Directive

/-!
# Filters

A filter is a comma list of directives.  The most specific directive about an event decides, and of
equal ones the last.  A filter without directives lets only errors through; an event that no
directive is about is dropped.
-/

namespace NodeRpc

/-- A list of directives. -/
abbrev Filter := List Directive

namespace Filter

/-- The pieces of a text between commas. -/
def splitCommas : List Char → List (List Char)
  | [] => [[]]
  | ',' :: rest => [] :: splitCommas rest
  | c :: rest => match splitCommas rest with
    | piece :: pieces => (c :: piece) :: pieces
    | [] => [[c]]

/-- A filter from its text; empty pieces are skipped. -/
def parse (text : String) : Except FilterError Filter :=
  ((splitCommas text.toList).filter fun piece => !piece.isEmpty).mapM Directive.parse

/-- The directive that decides about an event: the most specific, and of those the last. -/
def decisive? (filter : Filter) (e : Event) : Option Directive :=
  (filter.filter fun d => d.about e).foldl (fun best d => match best with
    | some b => if b.outweighs d then some b else some d
    | none => some d) none

/-- Whether an event passes. -/
def admits (filter : Filter) (e : Event) : Bool :=
  if filter.isEmpty then Threshold.admits (some .error) e.level
  else match filter.decisive? e with
    | some d => d.threshold.admits e.level
    | none => false

end Filter

end NodeRpc
