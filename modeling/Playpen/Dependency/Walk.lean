import Playpen.Dependency.Bundle
import Playpen.Dependency.Imports

/-!
# Walking a module graph

A walk fetches an entry module and everything it imports, depth by depth.  Modules of one depth are
asked for at once, in order; the walk goes on when all of them have come, and it ends early with the
first error it meets.  The network is a function that may leave a fetch waiting, so that a walk can
be kept and continued.
-/

namespace Playpen.Dependency

/-- What a network says when it is asked for a module. -/
inductive Reply where
  | waiting
  | answered (r : Except Error String)

/-- A module of the current depth. -/
structure Wanted where
  url : Url
  /-- Whether the network has been asked. -/
  asked : Bool
  text : Option String

/-- A walk under way. -/
structure Walk where
  name : String
  /-- How many modules the graph may have. -/
  limit : Nat
  bundle : Bundle
  /-- Every module that has been met. -/
  seen : List String
  frontier : List Wanted

/-- How a walk stands after the network has been asked. -/
inductive Progress where
  | waiting (w : Walk)
  | failed (e : Error)
  | finished (b : Bundle)

namespace Walk

def start (name : String) (entry : Url) (limit : Nat) : Walk :=
  ⟨name, limit, Bundle.ofEntry entry.text, [entry.text], [⟨entry, false, none⟩]⟩

/-- Asks for the modules of a depth in order, up to the first that fails.  Gives the URLs asked for
the first time, and the modules as they stand. -/
def ask (network : String → Reply) : List Wanted → List String × Except Error (List Wanted)
  | [] => ([], .ok [])
  | w :: rest =>
    let url := w.url.text
    let new := if w.asked then [] else [url]
    let goOn (w : Wanted) : List String × Except Error (List Wanted) :=
      let (more, r) := ask network rest
      (new ++ more, r.map (w :: ·))
    match w.text with
    | some _ => goOn w
    | none =>
      match network url with
      | .waiting => goOn { w with asked := true }
      | .answered (.ok text) => goOn { w with asked := true, text := some text }
      | .answered (.error e) => (new, .error e)

/-- The imports of one module that have not been met yet. -/
def meet (name : String) (limit : Nat) (referrer : Url) :
    List String → List String × List Url → Except Error (List String × List Url)
  | [], acc => .ok acc
  | specifier :: rest, (seen, next) => do
    let u ← resolveSpecifier referrer specifier
    if seen.contains u.text then meet name limit referrer rest (seen, next)
    else if seen.length + 1 > limit then .error (.tooManyModules name limit)
    else meet name limit referrer rest (seen ++ [u.text], next ++ [u])

/-- Takes in the modules of a depth and finds the next one. -/
def descend (w : Walk) : List (Url × String) → List Url → Except Error Walk
  | [], next => .ok { w with frontier := next.map fun u => ⟨u, false, none⟩ }
  | (url, text) :: rest, next => do
    let specifiers ← scanImports url.text text
    let (seen, next) ← meet w.name w.limit url specifiers (w.seen, next)
    descend { w with seen := seen, bundle := w.bundle.insert url.text text } rest next

/-- Goes on as far as the network lets it; gives the URLs asked for the first time as well. -/
def advance (network : String → Reply) : Nat → Walk → List String × Progress
  | 0, w => ([], .waiting w)
  | fuel + 1, w =>
    if w.frontier.isEmpty then ([], .finished w.bundle)
    else
      match ask network w.frontier with
      | (new, .error e) => (new, .failed e)
      | (new, .ok wanted) =>
        if wanted.any (·.text.isNone) then (new, .waiting { w with frontier := wanted })
        else
          match descend w (wanted.filterMap fun m => m.text.map (m.url, ·)) [] with
          | .error e => (new, .failed e)
          | .ok w =>
            let (more, p) := advance network fuel w
            (new ++ more, p)

/-- Enough rounds for any walk, since every depth but the last meets a module. -/
def rounds (w : Walk) : Nat := max w.limit w.seen.length + 2

/-- Goes on until the walk is over or waits. -/
def resume (network : String → Reply) (w : Walk) : List String × Progress := w.advance network w.rounds

end Walk

end Playpen.Dependency
