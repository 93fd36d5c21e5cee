import Playpen.Dependency.Identifier
import Playpen.Sandbox

/-!
# Execution

One run of a source: it is transpiled, each dependency is linked and bound, and the script is
evaluated with the console and the dependencies in sight.  Whatever fails ends the log with one
entry that says so.

A run does not depend on how the transpiler and the engine work.  What it asks of them is a
`Platform`; the one that runs sources is `Platform.standard`.
-/

namespace Playpen

open Engine (Value Thrown M)

/-! ## What a run uses -/

/-- A transpiler and an engine.  The engine's state holds the log of its console, and nothing that
the engine does takes entries from it. -/
structure Platform where
  State : Type
  log : State → Log.Buffer
  transpile : Dialect → String → Except Transpile.Error String
  /-- A fresh engine. -/
  sandbox : Limits → Except Sandbox.Error State
  /-- The value that scripts see as the console. -/
  console : State → Except Sandbox.Error Value × State
  /-- Links and evaluates a dependency. -/
  link : State → String → Dependency.Bundle → Except Sandbox.Error Value × State
  /-- Makes a function from the names of its parameters and its body. -/
  construct : State → List String → Except Thrown Value × State
  call : State → Value → List Value → Except Thrown Value × State
  /-- Runs the jobs that wait. -/
  drain : State → Except Thrown Unit × State
  /-- What is reported of whatever was thrown. -/
  describe : State → Thrown → String × State
  log_sandbox : ∀ limits s, sandbox limits = .ok s → log s = .empty
  grows_console : ∀ s, (log s).Grows (log (console s).2)
  grows_link : ∀ s name b, (log s).Grows (log (link s name b).2)
  grows_construct : ∀ s texts, (log s).Grows (log (construct s texts).2)
  grows_call : ∀ s f args, (log s).Grows (log (call s f args).2)
  grows_drain : ∀ s, (log s).Grows (log (drain s).2)
  grows_describe : ∀ s e, (log s).Grows (log (describe s e).2)

namespace Execution

/-- How a run ended, with the log it leaves. -/
inductive Outcome where
  | completed (log : Log.Transcript)
  | failed (log : Log.Transcript)
  deriving DecidableEq, Inhabited

namespace Outcome

def log : Outcome → Log.Transcript
  | completed t => t
  | failed t => t

def isFailed : Outcome → Bool
  | completed _ => false
  | failed _ => true

end Outcome

/-- A run that fails: its last entry is the failure. -/
def failure (b : Log.Buffer) (message : String) : Outcome := .failed (b.push .error message).snapshot

/-- A run that is over, with the warnings it gave on the way. -/
structure Result where
  outcome : Outcome
  warnings : List String

end Execution

/-! ## Runs -/

namespace Platform

/-- Binds each dependency that links under its identifier, in order; the others are warned of. -/
def bind (p : Platform) (s : p.State) (b : Bindings) :
    List (String × Dependency.Bundle) → Bindings × p.State × List String
  | [] => (b, s, [])
  | (name, bundle) :: rest =>
    match p.link s name bundle with
    | (.ok v, s) => p.bind s (b.push (Dependency.bindingIdentifier name) v) rest
    | (.error e, s) =>
      let (b, s, warnings) := p.bind s b rest
      (b, s, s!"{e.message} (skipped)" :: warnings)

/-- Runs a script as the body of a function that takes the bindings, and then all jobs. -/
def evaluate (p : Platform) (s : p.State) (script : String) (b : Bindings) :
    Except Thrown Value × p.State :=
  match p.construct s (b.names ++ [script]) with
  | (.error e, s) => (.error e, s)
  | (.ok f, s) =>
    match p.call s f b.values with
    | (.error e, s) => (.error e, s)
    | (.ok v, s) =>
      match p.drain s with
      | (.error e, s) => (.error e, s)
      | (.ok (), s) => (.ok v, s)

/-- Runs a script in a sandbox. -/
def finish (p : Platform) (s : p.State) (script : String) (b : Bindings) : Execution.Outcome :=
  match p.evaluate s script b with
  | (.ok _, s) => .completed (p.log s).snapshot
  | (.error e, s) =>
    let (message, s) := p.describe s e
    Execution.failure (p.log s) message

/-- Runs a source with dependencies. -/
def execute (p : Platform) (source : String) (dependencies : List (String × Dependency.Bundle))
    (c : Config) : Execution.Result :=
  match p.transpile c.dialect source with
  | .error e => ⟨Execution.failure .empty e.message, []⟩
  | .ok script =>
    match p.sandbox c.limits with
    | .error e => ⟨Execution.failure .empty e.message, []⟩
    | .ok s =>
      match p.console s with
      | (.error e, s) => ⟨Execution.failure (p.log s) e.message, []⟩
      | (.ok console, s) =>
        let (b, s, warnings) := p.bind s (Bindings.empty.push "console" console) dependencies
        ⟨p.finish s script b, warnings⟩

/-- The transpiler and the engine of this project. -/
def standard : Platform where
  State := Sandbox
  log := Sandbox.log
  transpile := Playpen.transpile
  sandbox limits := .ok (.new limits)
  console := Sandbox.console?
  link := Sandbox.link
  construct s texts := s.perform (Engine.functionOf texts)
  call s f args := s.perform (M.call f .undefined args.toArray)
  drain s := s.perform Engine.Run.jobs
  describe := Sandbox.describe
  log_sandbox limits s h := by
    rw [← Except.ok.inj h]
    exact Sandbox.log_new limits
  grows_console := Sandbox.console?_grows
  grows_link := Sandbox.link_grows
  grows_construct s texts := s.perform_grows (Engine.functionOf texts)
  grows_call s f args := s.perform_grows (M.call f .undefined args.toArray)
  grows_drain s := s.perform_grows Engine.Run.jobs
  grows_describe s e := s.performOr_grows "" (Engine.describe e)

end Platform

/-- Runs a source with dependencies. -/
def execute (source : String) (dependencies : List (String × Dependency.Bundle)) (c : Config) :
    Execution.Result :=
  Platform.standard.execute source dependencies c

end Playpen
