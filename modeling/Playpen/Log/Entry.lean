import Playpen.Display.Segment
import Playpen.Json.Decode

/-!
# Log entries

One console call leaves one entry: its kind, its text with one argument per line, and its place in
the order of emission.
-/

namespace Playpen.Log

/-- The console method that made an entry. -/
inductive Kind where
  | log
  | warn
  | error
  deriving DecidableEq, Repr, Inhabited

namespace Kind

/-- The method's name. -/
def name : Kind → String
  | log => "log"
  | warn => "warn"
  | error => "error"

def all : List Kind := [log, warn, error]

def ofName? (s : String) : Option Kind := all.find? (·.name = s)

instance : Json.Decodable Kind where
  read := Json.Reader.variant ofName? (all.map name)
  ofValue v :=
    match v with
    | .string s =>
      match ofName? s with
      | some k => .ok k
      | none => .error s!"unknown variant `{s}`, expected one of `log`, `warn`, `error`"
    | v => .error (Json.invalidType (Json.found v) "enum LogKind")

end Kind

/-- One console call. -/
structure Entry where
  kind : Kind
  content : String
  sequence : Nat
  deriving DecidableEq, Repr, Inhabited

namespace Entry

def segments (e : Entry) : List Display.Segment := Display.render e.content

def toJson (e : Entry) : Json :=
  .object [("kind", .string e.kind.name), ("content", .string e.content), ("sequence", .nat e.sequence)]

/-- An entry of which some fields are known. -/
structure Draft where
  kind : Option Kind
  content : Option String
  sequence : Option (Json.Word "u64")

def shape : Json.Shape Draft Entry where
  name := "LogEntry"
  slots := [
    .of "kind" true Draft.kind fun d k => { d with kind := some k },
    .of "content" true Draft.content fun d c => { d with content := some c },
    .of "sequence" true Draft.sequence fun d n => { d with sequence := some n }]
  start := ⟨none, none, none⟩
  finish d := ⟨d.kind.getD .log, d.content.getD "", (d.sequence.getD ⟨0⟩).val⟩

instance : Json.Decodable Entry := ⟨shape.read, shape.ofValue⟩

end Entry

/-- What a finished run leaves: its entries in order of emission. -/
structure Transcript where
  entries : List Entry
  deriving DecidableEq, Repr, Inhabited

namespace Transcript

def empty : Transcript := ⟨[]⟩

def ofKind (t : Transcript) (k : Kind) : List Entry := t.entries.filter (·.kind = k)

def toJson (t : Transcript) : Json := .array (t.entries.map Entry.toJson)

instance : Json.Decodable Transcript where
  read := return ⟨← Json.Reader.list⟩
  ofValue
    | .array items => do return ⟨← items.mapM Json.Decodable.ofValue⟩
    | v => .error (Json.invalidType (Json.found v) "a sequence")

end Transcript

end Playpen.Log
