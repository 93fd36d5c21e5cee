import Playpen.Dependency.Registry
import Playpen.Execution

/-!
# Reports

What a run left, as one JSON document: how it ended, each entry with its segments, and each listed
dependency with the state of its load.
-/

namespace Playpen.Report

open Dependency (Listing)

/-- The word for how a run ended. -/
def status (o : Execution.Outcome) : String := if o.isFailed then "failed" else "completed"

def segment (s : Display.Segment) : Json := .object [("type", .string s.kind), ("value", s.value)]

/-- An entry's own members, and its segments. -/
def entry (e : Log.Entry) : Json :=
  .object [
    ("kind", .string e.kind.name), ("content", .string e.content), ("sequence", .nat e.sequence),
    ("segments", .array (e.segments.map segment))]

def document (o : Execution.Outcome) (dependencies : List Listing) : Json :=
  .object [
    ("status", .string (status o)),
    ("entries", .array (o.log.entries.map entry)),
    ("dependencies", .array (dependencies.map Listing.toJson))]

/-- The document as it is printed. -/
def text (o : Execution.Outcome) (dependencies : List Listing) : String :=
  (document o dependencies).pretty ++ "\n"

end Playpen.Report
