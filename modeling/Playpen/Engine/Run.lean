import Playpen.Engine.Step

/-!
# Runs

Functions of a script run in a loop of steps.  A built-in function that calls a function of a script
starts a loop of its own, which ends with that function; how deep such loops may lie in each other
is bounded.
-/

namespace Playpen.Engine

open M

namespace Run

/-- More steps than any run takes. -/
def steps : Nat := 1000000000000000000

/-- Steps up to the end of a function that a built-in function has called. -/
def straight : Nat → M Value
  | 0 => limitError "exceeded maximum number of steps"
  | n + 1 => do
    match ← Step.step with
    | some v => return v
    | none => straight n

/-- Steps up to the end of such a function, going on where errors are handled. -/
def loop : Nat → M Value
  | 0 => limitError "exceeded maximum number of steps"
  | n + 1 => do
    match ← attempt (straight steps) with
    | .ok v => return v
    | .error e =>
      match ← Call.recover e with
      | .goesOn => loop n
      | .ends (.ok v) => return v
      | .ends (.error e) => fail e

/-- Runs what has been entered; meanwhile no built-in function runs. -/
def inside (native : String) (x : M Unit) : M Value := do
  x
  Step.setNative ""
  handle (do
    let v ← loop steps
    Step.setNative native
    return v) fun e => do
    Step.setNative native
    fail e

/-- A call by a built-in function. -/
def call (f this : Value) (args : Array Value) : M Value := do
  match f with
  | .object r =>
    match ← Heap.kindOf r with
    | .closure c =>
      let (native, floor) ← look fun m => (m.native, m.stack.size)
      let fr ← Call.frameOf c f this args floor (some native)
      inside native do
        Stack.push f
        Stack.push this
        Stack.pushAll args
        Call.enter fr
    | .native fn _ _ => Step.runNative fn ⟨this, args, .undefined, r⟩
    | .bound _ _ _ =>
      let (f, this, args) ← Step.unbind Step.bindings f this args
      M.call f this args
    | .proxy target handler callable _ => Step.callProxy target handler this callable args
    | _ => Step.notCallable
  | _ => Step.notCallable

/-- The target of bound functions when they are constructed, with the arguments that come first. -/
def constructBound (self target : Value) (first args : Array Value) (newTarget : Value) : M Value :=
  M.construct target (first ++ args) (if newTarget.same self then target else newTarget)

/-- A call by `new` from a built-in function. -/
def construct (f : Value) (args : Array Value) (newTarget : Value) : M Value := do
  match f with
  | .object r =>
    match ← Heap.kindOf r with
    | .closure c =>
      if !c.code.isConstructor then Step.notConstructor
      let native ← look (·.native)
      inside native (Step.enterConstruct c f args newTarget (some native))
    | .native fn isConstructor _ =>
      if !isConstructor then Step.notConstructor
      Step.runNative fn ⟨.undefined, args, newTarget, r⟩
    | .bound target _ first => constructBound f target first args newTarget
    | .proxy target handler _ isConstructor => Step.constructProxy f target handler isConstructor args newTarget
    | _ => Step.notConstructor
  | _ => Step.notConstructor

/-- Goes on with a suspended function until it is suspended again or ends. -/
def resume (s : Suspended) (how : Resumption) (v : Value) : M Value := do
  let native ← look (·.native)
  inside native (Call.reenter s how v (some native))

/-- How deep loops may lie in each other. -/
def nesting : Nat := 10000

/-- Nothing more can be called. -/
def exhausted (m : Machine) : Outcome m α :=
  ⟨.error (.limit "exceeded maximum number of recursive calls" none) m, Machine.Extends.refl m⟩

/-- What built-in functions can call, for a nesting up to a bound. -/
def hostAt : Nat → Host
  | 0 => ⟨fun _ _ _ m => exhausted m, fun _ _ _ m => exhausted m, fun _ _ _ m => exhausted m⟩
  | n + 1 => {
      call := fun f this args m => call f this args (hostAt n) m
      construct := fun f args newTarget m => construct f args newTarget (hostAt n) m
      resume := fun s how v m => resume s how v (hostAt n) m }

def host : Host := hostAt nesting

/-! ## Jobs -/

/-- Settles what waits for a reaction. -/
def conclude (r : Reaction) (outcome : Except Value Value) : M Unit := do
  match r.capability with
  | some k => Promise.settle k outcome
  | none => pure ()

/-- Goes on with a function that has waited. -/
def wake (task : Ref) (how : Resumption) (v : Value) : M Unit := do
  match ← Heap.kindOf task with
  | .task s =>
    discard (M.resume s how v)
    match s.frame.task with
    | .asyncGenerator g => Coroutine.drain g Coroutine.bound
    | _ => pure ()
  | _ => pure ()

def react (r : Reaction) (v : Value) : M Unit := do
  match r.handler with
  | .identity => conclude r (.ok v)
  | .thrower => conclude r (.error v)
  | .script f => conclude r (← catching (M.call f .undefined #[v]))
  | .resume task throws => wake task (if throws then .throw else .next) v
  | .generatorReturn g throws => Coroutine.returned g v throws
  | .module i throws => Modules.ended i v throws
  | .importRead i promise => Modules.importRead i promise
  | .imported i promise throws => Modules.importDone i promise v throws

def runJob (j : Job) : M Unit := do
  match j with
  | .reaction r v => react r v
  | .thenable p thenable f =>
    let (resolve, reject) ← Promise.settlers p
    match ← catching (M.call f thenable #[resolve, reject]) with
    | .ok _ => pure ()
    | .error e => discard (M.call reject .undefined #[e])

/-- Takes all jobs that are there now. -/
def takeJobs : M (Array Job) := updateGet fun m => (m.jobs, { m with jobs := #[] })

def isIdle : M Bool := look fun m => m.jobs.isEmpty && m.imports.isEmpty

/-- Runs jobs, and those that they bring about, until none is left. -/
def jobsUpTo : Nat → M Unit
  | 0 => pure ()
  | n + 1 => do
    if ← isIdle then pure ()
    else
      Modules.advanceImports
      (← takeJobs).forM runJob
      jobsUpTo n

def forget : M Unit := update fun m => { m with jobs := #[], imports := [] }

/-- Runs all jobs; an error that no job keeps ends them all. -/
def jobs : M Unit := handle (jobsUpTo steps) fun e => do
  forget
  fail e

end Run

end Playpen.Engine
