import Playpen.Config
import Playpen.Dependency.Error
import Playpen.Transpile

/-!
# What can go wrong outside of scripts

A script that throws leaves a report; the errors here are those of whoever runs it.  Some have a
hint at what to do about them.
-/

namespace Playpen

/-- Why a sandbox could not be used. -/
inductive Sandbox.Error where
  | bindingMismatch (names values : Nat)
  | engine (message : String)
  | link (name message : String)
  deriving DecidableEq, Repr

def Sandbox.Error.message : Sandbox.Error → String
  | bindingMismatch names values => s!"binding mismatch: {names} names but {values} values"
  | engine message => s!"failed to initialize engine: {message}"
  | link name message => s!"failed to link dependency '{name}': {message}"

/-- An error of the playground's user. -/
inductive Error where
  | transpile (e : Transpile.Error)
  | dependency (e : Dependency.Error)
  | sandbox (e : Sandbox.Error)
  /-- A run was asked for during a run. -/
  | runInProgress
  /-- A configuration file that is not a configuration. -/
  | config (message : String)
  | io (message : String)
  deriving DecidableEq, Repr

namespace Error

def message : Error → String
  | transpile e => e.message
  | dependency e => e.message
  | sandbox e => e.message
  | runInProgress => "a run is already in progress"
  | config m => s!"invalid configuration: {m}"
  | io m => s!"IO error: {m}"

/-- What to do about an error, where that is known. -/
def hint? : Error → Option String
  | transpile _ => some "check the source for unbalanced braces or stray tokens"
  | dependency (.invalidSpec _) => some "dependencies are written as name@version, e.g. lodash@4.17.21"
  | dependency (.status _ _) | dependency (.fetch _ _) =>
    some "verify the package name and version exist on the CDN"
  | dependency (.bindingConflict _ _ _) => some "remove the other dependency before adding this one"
  | dependency (.evaluation _ _) =>
    some "the package expects globals the sandbox does not provide, such as console or window"
  | dependency (.tooManyModules _ _) => some "raise max_modules_per_dependency in the configuration file"
  | runInProgress => some "wait for the current run to finish"
  | config _ => some "the configuration file must be a JSON object"
  | _ => none

/-- The message, and below it the hint. -/
def withHint (e : Error) : String :=
  match e.hint? with
  | some hint => e.message ++ "\n  hint: " ++ hint
  | none => e.message

def ofFile : Config.FileError → Error
  | .malformed m => config m
  | .unreadable m => io m

end Error

end Playpen
