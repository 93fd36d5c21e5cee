import Playpen.Config
import Playpen.Dependency.Registry
import Playpen.Dependency.Walk
import Playpen.Sandbox

/-!
# Loading a dependency

A load lists its dependency, walks the module graph, tries the modules in a sandbox that is thrown
away, and then reports to the registry.  It may wait for the network between any two of its fetches;
what happens to the registry meanwhile does not touch it, and its ticket tells at the end whether
anyone still wants the result.
-/

namespace Playpen.Dependency

/-- A load under way. -/
structure Load where
  dependency : Dependency
  ticket : Ticket
  /-- The walk through the modules; there is none when the entry has no address. -/
  walk : Except Error Walk

namespace Load

/-- What becomes of modules that were fetched and tried. -/
inductive Outcome where
  /-- They are bound. -/
  | registered (b : Bundle)
  /-- The dependency was removed or added again in the meantime. -/
  | discarded

/-- The end of a load: its result, the registry it leaves, and its warnings. -/
structure Ending where
  result : Except Error Outcome
  registry : Registry
  warnings : List String

/-- How a load stands after the network has been asked. -/
inductive Progress where
  | waiting (l : Load)
  /-- Everything has been fetched, or something could not be. -/
  | fetched (r : Except Error Bundle)

/-- Lists a dependency and starts its load. -/
def begin (c : Config) (r : Registry) (d : Dependency) : Except Error (Load × Registry) := do
  let (ticket, r) ← r.begin d
  return (⟨d, ticket, (d.moduleUrl c.cdnBase).map fun entry => Walk.start d.name entry c.maxModules⟩, r)

/-- Goes on as far as the network lets it; gives the URLs asked for the first time as well. -/
def resume (network : String → Reply) (l : Load) : List String × Progress :=
  match l.walk with
  | .error e => ([], .fetched (.error e))
  | .ok w =>
    match w.resume network with
    | (asked, .waiting w) => (asked, .waiting { l with walk := .ok w })
    | (asked, .failed e) => (asked, .fetched (.error e))
    | (asked, .finished b) => (asked, .fetched (.ok b))

/-- Tries a bundle: it must link and evaluate in a sandbox of its own. -/
def tried (limits : Limits) (name : String) (b : Bundle) : Except Error Bundle :=
  match ((Sandbox.new limits).link name b).1 with
  | .ok _ => .ok b
  | .error (.link _ message) => .error (.evaluation name message)
  | .error e => .error (.evaluation name e.message)

/-- Reports a result to the registry.  A failure is warned of even when nobody waits for it. -/
def finish (l : Load) (r : Registry) : Except Error Bundle → Ending
  | .ok b =>
    match r.commit l.ticket b with
    | (true, r) => ⟨.ok (.registered b), r, []⟩
    | (false, r) => ⟨.ok .discarded, r, []⟩
  | .error e =>
    let d := l.dependency
    ⟨.error e, (r.fail l.ticket e.message).2, [s!"Failed to load {d.name}@{d.version}: {e.message}"]⟩

/-- Tries what was fetched and reports to the registry. -/
def settle (l : Load) (limits : Limits) (r : Registry) (fetched : Except Error Bundle) : Ending :=
  l.finish r (fetched.bind (tried limits l.dependency.name))

end Load

end Playpen.Dependency
