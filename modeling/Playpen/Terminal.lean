import Playpen.Dependency.Registry
import Playpen.Execution

/-!
# Results on a terminal

Each entry begins with a gutter that names its kind; everything below belongs to it and is indented
by the gutter's width.  So no text that a script writes can begin a line of its own.
-/

namespace Playpen.Terminal

open Dependency (Listing)

/-! ## Styles -/

/-- The styles in use. -/
inductive Style where
  | bold
  | dim
  | red
  | green
  | yellow
  | blue
  | magenta
  | cyan
  deriving DecidableEq, Repr

/-- The sequence that turns a style on. -/
def Style.start : Style → String
  | bold => "\x1b[1m"
  | dim => "\x1b[2m"
  | red => "\x1b[31m"
  | green => "\x1b[32m"
  | yellow => "\x1b[33m"
  | blue => "\x1b[34m"
  | magenta => "\x1b[35m"
  | cyan => "\x1b[36m"

/-- The sequence that turns all styles off. -/
def reset : String := "\x1b[0m"

/-- A text in a style. -/
def paint (s : Style) (text : String) : String := s.start ++ text ++ reset

def line (text : String) : String := text ++ "\n"

/-- A line across the page. -/
def rule : String := "".pushn '─' 50

/-! ## Entries -/

def style : Log.Kind → Style
  | .log => .dim
  | .warn => .yellow
  | .error => .red

/-- How wide the gutter is. -/
def width : Nat := 6

/-- What the first line of an entry begins with. -/
def gutter (k : Log.Kind) : String :=
  paint (style k) ("".pushn ' ' (width - 1 - k.name.length) ++ k.name) ++ " "

/-- What every other line of an entry begins with. -/
def margin : String := "".pushn ' ' width

/-- A text whose lines after the first begin with the margin. -/
def indented (text : String) : String :=
  String.ofList (text.toList.flatMap fun c => if c = '\n' then c :: margin.toList else [c])

/-- A segment as it is shown; in a log entry, plain text is left plain. -/
def segment (k : Log.Kind) : Display.Segment → String
  | .tree v => indented v.pretty
  | .boolean b => paint .blue (if b then "true" else "false")
  | .number t => paint .cyan t
  | .nullish t => paint .magenta t
  | .text t =>
    match k with
    | .log => t
    | .warn | .error => paint (style k) t

/-- Puts the gutter before the first piece and the margin before the others. -/
def besideGutter (k : Log.Kind) : List String → List String
  | [] => []
  | first :: rest => (gutter k ++ first) :: rest.map (margin ++ ·)

/-- One entry, one piece per segment. -/
def entry (e : Log.Entry) : String :=
  String.join ((besideGutter e.kind (e.segments.map (segment e.kind))).map line)

/-! ## Pages -/

/-- The last line about a run. -/
def summary (o : Execution.Outcome) : String :=
  match o with
  | .completed t => paint .green "Completed" ++ s!" with {t.entries.length} entries"
  | .failed _ => paint .red "Failed"

/-- All entries of a run and its summary. -/
def outcome (o : Execution.Outcome) : String :=
  let entries := o.log.entries
  let body := if entries.isEmpty then line (paint .dim "(no output)") else String.join (entries.map entry)
  body ++ line rule ++ line (summary o)

/-- The head of a page about a file. -/
def header (title file : String) : String :=
  "\n" ++ line (paint .bold title ++ " - " ++ paint .cyan file) ++ line rule

def duration (time : String) : String := line (paint .dim s!"Ran in {time}")

/-! ## Notices -/

def warning (text : String) : String := line (paint .yellow "Warning:" ++ " " ++ text)

def failure (text : String) : String := line (paint .red "Error:" ++ " " ++ text)

/-- Says of a dependency that its load failed. -/
def unbound (l : Listing) : String :=
  match l.status with
  | .failed message =>
    let d := l.dependency
    warning s!"{d.name}@{d.version} is listed but not bound: {message}"
  | .loading | .loaded => ""

def unboundAll (ls : List Listing) : String := String.join (ls.map unbound)

def loading (count : Nat) : String := line (paint .dim s!"Loading {count} dependencies...")

end Playpen.Terminal
