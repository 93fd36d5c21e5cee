import Playpen.Display.Numeric
import Playpen.Json.Read

/-!
# Segments

The content of a log entry holds one argument per line, and every line is shown as exactly one
segment: a tree when it is a JSON object or array, otherwise a literal told apart by its text.
-/

namespace Playpen.Display

/-- A displayable piece of a log entry. -/
inductive Segment where
  /-- A JSON object or array. -/
  | tree (value : Json)
  | boolean (value : Bool)
  | number (text : String)
  /-- `null` or `undefined`. -/
  | nullish (text : String)
  | text (text : String)
  deriving Inhabited

namespace Segment

/-- The text of a literal; for a tree, its compact form. -/
def content : Segment → String
  | tree v => v.compact
  | boolean true => "true"
  | boolean false => "false"
  | number t => t
  | nullish t => t
  | text t => t

/-- The name of the kind of segment. -/
def kind : Segment → String
  | tree _ => "tree"
  | boolean _ => "boolean"
  | number _ => "number"
  | nullish _ => "nullish"
  | text _ => "text"

/-- The value a report gives for the segment. -/
def value : Segment → Json
  | tree v => v
  | boolean b => .bool b
  | number t => .string t
  | nullish t => .string t
  | text t => .string t

end Segment

/-- The object or array that a text holds, nested to any depth. -/
def treeOf? (text : String) : Option Json :=
  match Json.parse none text with
  | .ok (.array items) => some (.array items)
  | .ok (.object members) => some (.object members)
  | _ => none

/-- The segment of one line. -/
def classify (line : String) : Segment :=
  match treeOf? line with
  | some v => .tree v
  | none =>
    if line = "true" then .boolean true
    else if line = "false" then .boolean false
    else if isNumeric line then .number line
    else if line = "null" ∨ line = "undefined" then .nullish line
    else .text line

/-- The pieces between line feeds; `line` holds the current piece so far, last character first. -/
def splitLines (line : List Char) : List Char → List (List Char)
  | [] => [line.reverse]
  | c :: rest => if c = '\n' then line.reverse :: splitLines [] rest else splitLines (c :: line) rest

/-- The lines of a text. -/
def lines (text : String) : List String := (splitLines [] text.toList).map String.ofList

/-- One segment per line. -/
def render (content : String) : List Segment := (lines content).map classify

end Playpen.Display
