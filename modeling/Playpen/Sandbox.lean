import Playpen.Dependency.Bundle
import Playpen.Engine.Run
import Playpen.Error
import Playpen.Json.Value

/-!
# Sandboxes

The engine of one run.  A script sees the built-in objects and what it is bound to, and nothing
else; what it writes to its console is kept in the sandbox's log.
-/

namespace Playpen

open Engine (Value Thrown M)

/-! ## Bindings -/

/-- The names that a script sees, in order, each with its value. -/
structure Bindings where
  entries : List (String × Value)
  deriving Inhabited

namespace Bindings

def empty : Bindings := ⟨[]⟩

/-- Names and values that belong together by their places. -/
def ofParallel (names : List String) (values : List Value) : Except Sandbox.Error Bindings :=
  if names.length = values.length then .ok ⟨names.zip values⟩
  else .error (.bindingMismatch names.length values.length)

def push (b : Bindings) (name : String) (v : Value) : Bindings := ⟨b.entries ++ [(name, v)]⟩

def names (b : Bindings) : List String := b.entries.map (·.1)

def values (b : Bindings) : List Value := b.entries.map (·.2)

def size (b : Bindings) : Nat := b.entries.length

def isEmpty (b : Bindings) : Bool := b.entries.isEmpty

end Bindings

/-! ## What was thrown -/

namespace Engine

/-- The text of an error of the engine, with its trace. -/
def faultText (label message : String) (trace : Option (List String)) : String :=
  let head := if message.isEmpty then label else s!"{label}: {message}"
  "\n".intercalate (head :: trace.getD [])

/-- Whether a value looks like an error: an object with a text as its message. -/
def isErrorLike (v : Value) : M Bool := do
  match v with
  | .object r =>
    match ← M.attempt (Object.getNamed r "message") with
    | .ok (.text _) => return true
    | _ => return false
  | _ => return false

/-- What is reported of a thrown value. -/
def describeValue (v : Value) : M String := do
  let errorLike ← isErrorLike v
  match errorLike, ← Builtin.Console.coerced v with
  | true, some text => return text
  | false, some text => return s!"Error: {text}"
  | _, none => return s!"Error: {Builtin.Console.unprintable}"

/-- What is reported of whatever was thrown. -/
def describe (e : Thrown) : M String := do
  match e with
  | .value v => describeValue v
  | .raised kind message trace => return faultText kind.label message trace
  | .limit message trace => return faultText "RuntimeLimit" message trace

/-- A thrown value as it is, without asking it for anything. -/
def display (e : Thrown) : M String := do
  match e with
  | .value (.text w) => return s!"\"{w.display}\""
  | e => describe e

/-! ## Whole computations -/

/-- A function made from texts, the names of its parameters and then its body. -/
def functionOf (texts : List String) : M Value :=
  M.construct (.object Intrinsic.function) (texts.map Value.str).toArray (.object Intrinsic.function)

/-- Runs a script as the body of a function that takes the bindings, and then all jobs. -/
def evaluate (script : String) (b : Bindings) : M Value := do
  let f ← functionOf (b.names ++ [script])
  let result ← M.call f .undefined b.values.toArray
  Run.jobs
  return result

/-- The outcome of a promise once all jobs have been run. -/
def settledText (promise : Value) : M (Option String) := do
  match promise with
  | .object p =>
    match ← Heap.kindOf p with
    | .promise (.fulfilled _) _ => return none
    | .promise (.rejected e) _ => return some (← describeValue e)
    | _ => return some "module evaluation did not settle"
  | _ => return some "module evaluation did not settle"

/-- The value that a module is bound as: its default export, unless that is falsy, and otherwise all
of its exports. -/
def exposed (m : Nat) : M Value := do
  let all ← Modules.namespaceOf m
  let default ← Object.getNamed all "default"
  return if default.truthy then default else .object all

/-- Links and evaluates a bundle's entry; gives the value to bind, or what went wrong. -/
def link (entry : String) : M (Except String Value) := do
  let failed (e : Thrown) : M (Except String Value) := return .error (← display e)
  match ← M.attempt (Modules.get entry) with
  | .error e => failed e
  | .ok m =>
    let started ← M.attempt do
      match ← catching (do Modules.read m; Modules.link m; Modules.evaluate m) with
      | .ok p =>
        Run.jobs
        settledText p
      | .error e =>
        Run.jobs
        return some (← describeValue e)
    match started with
    | .error e => failed e
    | .ok (some text) => return .error text
    | .ok none =>
      match ← M.attempt (exposed m) with
      | .ok v => return .ok v
      | .error e => failed e

/-- A value as a text, if it has one. -/
def textOf? (v : Value) : M (Option String) := do
  match ← M.attempt (toText v) with
  | .ok w => return some w.display
  | .error _ => return none

mutual

/-- The value that JSON stands for. -/
def ofJson : Json → M Value
  | .null => return .null
  | .bool b => return .bool b
  | .number (.int i) => return .number (Num.ofInt i)
  | .number (.double x) => return .number x
  | .string s => return .str s
  | .array items => do Object.newArray (← ofItems items #[])
  | .object members => do
    let r ← Object.newObject
    ofMembers r members
    return .object r

def ofItems : List Json → Array Value → M (Array Value)
  | [], acc => return acc
  | j :: rest, acc => do
    let v ← ofJson j
    ofItems rest (acc.push v)

def ofMembers (r : Ref) : List (String × Json) → M Unit
  | [] => return ()
  | (k, j) :: rest => do
    let v ← ofJson j
    Object.create r (.ofString k) v
    ofMembers r rest

end

end Engine

/-! ## Sandboxes -/

/-- An engine with all that has happened in it. -/
structure Sandbox where
  machine : Engine.Machine
  deriving Inhabited

namespace Sandbox

/-- A sandbox in which nothing has happened. -/
def new (limits : Limits) : Sandbox := ⟨Engine.Realm.machine limits⟩

/-- What has been written to the console. -/
def log (s : Sandbox) : Log.Buffer := s.machine.log.buffer

theorem log_new (limits : Limits) : (new limits).log = .empty := by
  unfold new log Engine.Realm.machine
  rfl

/-- Runs a computation in a sandbox. -/
def perform (s : Sandbox) (x : M α) : Except Thrown α × Sandbox :=
  match x Engine.Run.host s.machine with
  | ⟨.ok a m, _⟩ => (.ok a, ⟨m⟩)
  | ⟨.error e m, _⟩ => (.error e, ⟨m⟩)

/-- Runs a computation that has a result in any case. -/
def performOr (s : Sandbox) (otherwise : α) (x : M α) : α × Sandbox :=
  match s.perform x with
  | (.ok a, s) => (a, s)
  | (.error _, s) => (otherwise, s)

/-- Whatever a computation does, the log only grows. -/
theorem perform_grows (s : Sandbox) (x : M α) : s.log.Grows (s.perform x).2.log := by
  unfold perform
  cases x Engine.Run.host s.machine with
  | mk r extends_ => cases r <;> exact extends_.2

theorem performOr_grows (s : Sandbox) (otherwise : α) (x : M α) :
    s.log.Grows (s.performOr otherwise x).2.log := by
  have h := s.perform_grows x
  unfold performOr
  cases hperform : s.perform x with
  | mk r s' =>
    rw [hperform] at h
    cases r <;> exact h

/-- A console whose methods write to the log, unless the engine fails to make one. -/
def console? (s : Sandbox) : Except Error Value × Sandbox :=
  match s.perform Engine.Builtin.Console.alloc with
  | (.ok v, s) => (.ok v, s)
  | (.error e, s) =>
    let (text, s) := s.performOr "" (Engine.display e)
    (.error (.engine text), s)

theorem console?_grows (s : Sandbox) : s.log.Grows s.console?.2.log := by
  have h := s.perform_grows Engine.Builtin.Console.alloc
  unfold console?
  cases halloc : s.perform Engine.Builtin.Console.alloc with
  | mk r s' =>
    rw [halloc] at h
    cases r with
    | ok v => exact h
    | error e => exact h.trans (s'.performOr_grows "" (Engine.display e))

/-- A console whose methods write to the log. -/
def console (s : Sandbox) : Value × Sandbox :=
  match s.console? with
  | (.ok v, s) => (v, s)
  | (.error _, s) => (.undefined, s)

/-- Makes the modules of a bundle known; one that is known keeps its source. -/
def addBundle (s : Sandbox) (b : Dependency.Bundle) : Sandbox :=
  ⟨{ s.machine with
    sources := b.sources.entries.foldl (fun t (url, text) => Engine.Modules.addSource t url text) s.machine.sources }⟩

/-- Links a dependency; gives the value to bind. -/
def link (s : Sandbox) (name : String) (b : Dependency.Bundle) : Except Error Value × Sandbox :=
  let (r, s) := (s.addBundle b).performOr (.error "") (Engine.link b.entry)
  (r.mapError (.link name), s)

theorem link_grows (s : Sandbox) (name : String) (b : Dependency.Bundle) : s.log.Grows (s.link name b).2.log := by
  have h := (s.addBundle b).performOr_grows (.error "") (Engine.link b.entry)
  unfold link
  generalize (s.addBundle b).performOr (.error "") (Engine.link b.entry) = ended at h ⊢
  exact h

/-- Runs a script. -/
def evaluate (s : Sandbox) (script : String) (b : Bindings) : Except Thrown Value × Sandbox :=
  s.perform (Engine.evaluate script b)

/-- What is reported of whatever was thrown. -/
def describe (s : Sandbox) (e : Thrown) : String × Sandbox := s.performOr "" (Engine.describe e)

/-- The word for a value's type. -/
def typeOf (s : Sandbox) (v : Value) : String := (s.performOr "" (Engine.typeOf v)).1

/-- A value as a text, if it has one. -/
def textOf? (s : Sandbox) (v : Value) : Option String × Sandbox := s.performOr none (Engine.textOf? v)

/-- The value that JSON stands for. -/
def ofJson (s : Sandbox) (j : Json) : Value × Sandbox := s.performOr .undefined (Engine.ofJson j)

end Sandbox

end Playpen
