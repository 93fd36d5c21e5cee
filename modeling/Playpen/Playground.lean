import Playpen.Dependency.Load
import Playpen.Execution

/-!
# Playgrounds

A session: the source being edited, the dependencies, and the result that was published last.

A run goes through seven stages, each one step of the playground: it takes the running flag,
publishes an empty result, freezes the bound dependencies, reads the source, executes, publishes
what came out, and gives the flag back.  Anything else may happen between two steps.  A run sees
only what it froze and read, a run that finds the flag taken is refused, and the result is published
before the flag is free.
-/

namespace Playpen

open Dependency (Load Bundle Registry Reply)

namespace Playground

/-- A load in the background. -/
inductive Task where
  /-- It has not listed its dependency yet. -/
  | queued (d : Dependency)
  | loading (l : Load)
  | ended (r : Except Dependency.Error Load.Outcome)

/-- How far a run has come since it took the flag. -/
inductive Stage where
  | accepted
  | cleared
  | frozen (bound : List (String × Bundle))
  | ready (bound : List (String × Bundle)) (source : String)
  | executed (r : Execution.Result)
  | published (r : Execution.Result)
  | finished (r : Execution.Result)

/-- Whether a run is under way. -/
inductive State where
  | idle
  | running
  deriving DecidableEq, Repr

def State.name : State → String
  | idle => "idle"
  | running => "running"

end Playground

/-- A session. -/
structure Playground where
  config : Config
  registry : Registry
  source : String
  /-- Taken by the one run that is under way. -/
  running : Bool
  /-- The result that was published last. -/
  latest : Log.Transcript
  /-- How often something has been published. -/
  publications : Nat
  tasks : Array Playground.Task

namespace Playground

/-- A new session. -/
def new (c : Config) : Playground := ⟨c, .empty, "", false, .empty, 0, #[]⟩

def state (p : Playground) : State := if p.running then .running else .idle

/-! ## Source and result -/

def setSource (p : Playground) (source : String) : Playground := { p with source := source }

/-- Publishes a result in place of the one before. -/
def publish (p : Playground) (t : Log.Transcript) : Playground :=
  { p with latest := t, publications := p.publications + 1 }

/-- Publishes an empty result. -/
def clearOutput (p : Playground) : Playground := p.publish .empty

/-! ## Runs -/

/-- Takes the flag, if it is free. -/
def accept (p : Playground) : Except Error (Stage × Playground) :=
  if p.running then .error .runInProgress else .ok (.accepted, { p with running := true })

/-- One step of a run. -/
def step (p : Playground) : Stage → Stage × Playground
  | .accepted => (.cleared, p.publish .empty)
  | .cleared => (.frozen p.registry.snapshot, p)
  | .frozen bound => (.ready bound p.source, p)
  | .ready bound source => (.executed (execute source bound p.config), p)
  | .executed r => (.published r, p.publish r.outcome.log)
  | .published r => (.finished r, { p with running := false })
  | .finished r => (.finished r, p)

/-- How many steps a run has left. -/
def Stage.remaining : Stage → Nat
  | accepted => 6
  | cleared => 5
  | frozen _ => 4
  | ready _ _ => 3
  | executed _ => 2
  | published _ => 1
  | finished _ => 0

theorem remaining_step (p : Playground) (s : Stage) :
    (p.step s).1.remaining = s.remaining - 1 := by cases s <;> rfl

/-- A run that is not disturbed any more. -/
def complete (p : Playground) (s : Stage) : Execution.Result × Playground :=
  match _h : s with
  | .finished r => (r, p)
  | .accepted | .cleared | .frozen _ | .ready _ _ | .executed _ | .published _ =>
    let next := p.step s
    complete next.2 next.1
termination_by s.remaining
decreasing_by
  all_goals
    rw [remaining_step, _h]
    exact Nat.sub_lt (Nat.succ_pos _) Nat.one_pos

/-- Runs the source. -/
def run (p : Playground) : Except Error (Execution.Result × Playground) := do
  let (stage, p) ← p.accept
  return p.complete stage

/-! ## Dependencies -/

/-- What a playground did with the network: the URLs asked for the first time, and warnings. -/
structure Activity where
  asked : List String
  warnings : List String

namespace Activity

def none : Activity := ⟨[], []⟩

def append (a b : Activity) : Activity := ⟨a.asked ++ b.asked, a.warnings ++ b.warnings⟩

end Activity

/-- Lets a load go on, and reports its result if it has come to one. -/
def pursue (network : String → Reply) (p : Playground) (l : Load) : Task × Activity × Playground :=
  match l.resume network with
  | (asked, .waiting l) => (.loading l, ⟨asked, []⟩, p)
  | (asked, .fetched r) =>
    let e := l.settle p.config.limits p.registry r
    (.ended e.result, ⟨asked, e.warnings⟩, { p with registry := e.registry })

/-- Lets a task go on as far as the network lets it. -/
def advance (network : String → Reply) (p : Playground) : Task → Task × Activity × Playground
  | .queued d =>
    match Load.begin p.config p.registry d with
    | .error e => (.ended (.error e), .none, p)
    | .ok (l, r) => pursue network { p with registry := r } l
  | .loading l => pursue network p l
  | .ended r => (.ended r, .none, p)

/-- Lets the task of a number go on. -/
def progressAt (network : String → Reply) (p : Playground) (id : Nat) : Activity × Playground :=
  match p.tasks[id]? with
  | none => (.none, p)
  | some task =>
    let (task, activity, p) := advance network p task
    (activity, { p with tasks := p.tasks.setIfInBounds id task })

/-- Lets every background load go on, the oldest first. -/
def progress (network : String → Reply) (p : Playground) : Activity × Playground :=
  (List.range p.tasks.size).foldl (fun (a, p) id =>
    let (b, p) := progressAt network p id
    (a.append b, p)) (.none, p)

/-- Lets background loads go on in any order: each turn names a task, and has what the network says
by then. -/
def attend (p : Playground) (turns : List (Nat × (String → Reply))) : Playground :=
  turns.foldl (fun p (id, network) => (progressAt network p id).2) p

/-- Starts to load a dependency in the background; gives the number of its task. -/
def spawn (p : Playground) (d : Dependency) : Nat × Playground :=
  (p.tasks.size, { p with tasks := p.tasks.push (.queued d) })

/-- Loads a dependency as far as the network lets it at once. -/
def add (network : String → Reply) (p : Playground) (d : Dependency) : Task × Activity × Playground :=
  advance network p (.queued d)

/-- Removes a dependency and its binding; the flag says whether it was listed. -/
def remove (p : Playground) (name : String) : Bool × Playground :=
  let (listed, r) := p.registry.remove name
  (listed, { p with registry := r })

end Playground

end Playpen
