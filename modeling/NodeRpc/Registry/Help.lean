import NodeRpc.Registry.Basic
import NodeRpc.Text.Lowercase

/-!
# Usage and help

The usage line names the required parameters and then the optional ones in parentheses.  Help adds
the description and one row per parameter; it is refused if any description is missing.
-/

namespace NodeRpc

/-- A plural name without its ending. -/
def singular (name : String) : String :=
  match name.toList.reverse with
  | 's' :: 'e' :: 'i' :: stem => String.ofList (stem.reverse ++ ['y'])
  | 's' :: 'e' :: stem => String.ofList stem.reverse
  | 's' :: stem => String.ofList stem.reverse
  | _ => name

namespace Field

/-- The name as usage and help show it: no underscores, lower case. -/
def displayName (f : Field) : String :=
  lowercase (String.ofList (f.name.toList.filter (· ≠ '_')))

/-- The field in a usage line. -/
def usageText (f : Field) : String :=
  match f.usage with
  | some usage => usage
  | none => match f.defaultText, f.kind with
    | some text, _ => f.displayName ++ "=" ++ text
    | none, .string => "\"" ++ f.displayName ++ "\""
    | none, .array .string => "[\"" ++ singular f.displayName ++ "\",...]"
    | none, .array _ => "[" ++ singular f.displayName ++ ",...]"
    | none, _ => f.displayName

end Field

/-- The usage line of a method. -/
def usageLine (method : String) (fields : List Field) : String :=
  let (optional, required) := fields.partition Field.optional
  let start := " ".intercalate (method :: required.map Field.usageText)
  if optional.isEmpty then start
  else start ++ " (" ++ " ".intercalate (optional.map Field.usageText) ++ ")"

/-- A text followed by spaces up to a number of characters. -/
def padTo (width : Nat) (s : String) : String :=
  s ++ String.ofList (List.replicate (width - s.length) ' ')

/-- Whether a parameter may be left out, and what stands for it then. -/
def presenceText (optional : Bool) (default : Option Json) : String :=
  match optional, default with
  | false, _ => "required"
  | true, none => "optional"
  | true, some v => "optional, default=" ++ v.toText

/-- The row of a parameter. -/
def helpRow (width index : Nat) (f : Field) (default : Option Json) (description : String) :
    String :=
  toString (index + 1) ++ ". " ++ padTo width f.displayName ++ " (" ++ f.kind.text ++ ", "
    ++ presenceText f.optional default ++ ") " ++ description

/-- The rows of a table from a place on. -/
def helpRows (method : String) (width index : Nat) :
    List Field → List (Option Json) → Except CodecError (List String)
  | [], _ => .ok []
  | f :: fs, defaults =>
    match f.description with
    | none => .error (.undescribedParam method (f.ref index))
    | some text => do
      let rows ← helpRows method width (index + 1) fs defaults.tail
      return helpRow width index f (defaults.headD none) text :: rows

namespace Descriptor

/-- The usage line. -/
def usage (d : Descriptor) : String := usageLine d.method d.fields

/-- The width of the column of names: the length of the longest, in bytes. -/
def nameWidth (d : Descriptor) : Nat :=
  d.fields.foldl (fun width f => max width f.displayName.utf8ByteSize) 0

/-- The help text, a line break after every line. -/
def help (d : Descriptor) : Except CodecError String := do
  let description ← match d.type.description with
    | some text => .ok text
    | none => .error (.undescribedMethod d.method)
  let rows ← helpRows d.method d.nameWidth 0 d.fields d.defaults
  let body := if rows.isEmpty then ["None"] else rows
  return String.join
    (([d.usage, "", description, "", "Arguments:"] ++ body).map fun line => line ++ "\n")

end Descriptor

namespace Registry

/-- The usage line of a method. -/
def usageText (r : Registry) (method : String) : Except CodecError String :=
  (r.lookup method).map Descriptor.usage

/-- The help text of a method. -/
def helpText (r : Registry) (method : String) : Except CodecError String := do
  (← r.lookup method).help

end Registry

end NodeRpc
