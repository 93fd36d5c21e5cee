import Playpen.Engine.Closure
import Playpen.Engine.Coroutine
import Playpen.Script.Lexer

/-!
# Calls

Entering functions, leaving them with a value, suspending them, and looking for a handler when an
error has been thrown.  The values that a call takes, `f this a₁ … aₙ`, stay on the stack below the
function's locals until it ends.
-/

namespace Playpen.Engine

open M
open Playpen.Script (Lexer.lineColumn)

/-! ## The stack -/

namespace Stack

@[inline]
def push (v : Value) : M Unit := update fun m => { m with stack := m.stack.push v }

def pushAll (vs : Array Value) : M Unit := update fun m => { m with stack := m.stack ++ vs }

@[inline]
def pop : M Value := updateGet fun m =>
  (m.stack.getD (m.stack.size - 1) .undefined, { m with stack := m.stack.pop })

@[inline]
def drop : M Unit := update fun m => { m with stack := m.stack.pop }

/-- The value so many places below the top. -/
@[inline]
def peek (n : Nat) : M Value := look fun m => m.stack.getD (m.stack.size - 1 - n) .undefined

/-- Takes the topmost values, the lowest first. -/
def take (n : Nat) : M (Array Value) := updateGet fun m =>
  (m.stack.extract (m.stack.size - n) m.stack.size, { m with stack := m.stack.shrink (m.stack.size - n) })

@[inline]
def height : M Nat := look fun m => m.stack.size

end Stack

/-! ## Traces -/

namespace Trace

/-- The longest trace. -/
def maxLines : Nat := 50

/-- Where a function is, and who has called it if that is a built-in function. -/
def linesOf (f : Frame) : List String :=
  let (line, column) := Lexer.lineColumn f.code.origin.src (f.code.places.getD (f.pc - 1) 0)
  let name := if f.code.name.isEmpty then "<anonymous>" else f.code.name
  let file := (f.code.origin.path.map fun url => s!"{url}:").getD "unknown at :"
  s!"    at {name} ({file}{line}:{column})" ::
    match f.boundary with
    | some "" => []
    | some native => [s!"    at {native} (native)"]
    | none => []

/-- The functions that run, innermost first. -/
def current : M (List String) := look fun m =>
  ((((m.frame :: m.frames).take m.depth).take maxLines).flatMap linesOf).take maxLines

/-- Adds the trace to an error that has none. -/
def attach (e : Thrown) : M Thrown := do
  match e with
  | .raised k message none => return .raised k message (some (← current))
  | .limit message none => return .limit message (some (← current))
  | e => return e

end Trace

namespace Call

/-! ## Entering -/

/-- Fails if the limits admit no further call. -/
def checkLimits : M Unit := do
  let (deep, high) ← look fun m =>
    (decide (m.limits.recursionLimit ≤ m.depth), decide (m.limits.stackSizeLimit ≤ m.stack.size))
  if deep then limitError "exceeded maximum number of recursive calls"
  if high then limitError "exceeded maximum call stack length"

/-- What a function sees as `this`. -/
def thisOf (c : Closure) (this : Value) : M Value := do
  if c.code.kind == .arrow then return c.this
  else if c.code.strict then return this
  else
    match this with
    | .object _ => return this
    | .undefined | .null => return .object Intrinsic.global
    | v => return .object (← toObject v)

/-- The frame of a plain call; its values are on the stack from `floor` on. -/
def frameOf (c : Closure) (f this : Value) (args : Array Value) (floor : Nat) (boundary : Option String) :
    M Frame := do
  if c.code.isClass then typeError "class constructor cannot be invoked without 'new'"
  checkLimits
  let this ← thisOf c this
  let task ← if c.code.async && !c.code.generator then pure (Task.promise (← Promise.plainCapability))
    else pure .none
  let arrow := c.code.kind == .arrow
  return {
    code := c.code, pc := 0, base := 0, floor := floor, env := c.env, this := this, func := f
    owner := if arrow then c.owner else f, newTarget := if arrow then c.newTarget else .undefined
    args := args, handlers := [], loops := 0, construct := false, boundary := boundary, task := task }

/-- The prototype that a constructor's new objects get. -/
def prototypeOf (newTarget : Value) (standard : Ref) : M Ref := do
  match newTarget with
  | .object r =>
    match ← Object.getNamed r "prototype" with
    | .object p => return p
    | _ => return standard
  | _ => return standard

/-- The frame of a call by `new`. -/
def constructFrameOf (c : Closure) (f : Value) (args : Array Value) (newTarget : Value) (floor : Nat)
    (boundary : Option String) : M Frame := do
  checkLimits
  let this ← if c.code.kind == .derivedConstructor then pure .hole
    else do
      let p ← prototypeOf newTarget Intrinsic.objectPrototype
      pure (.object (← Heap.allocKind (some p) .ordinary))
  return {
    code := c.code, pc := 0, base := 0, floor := floor, env := c.env, this := this, func := f, owner := f
    newTarget := newTarget, args := args, handlers := [], loops := 0, construct := true, boundary := boundary
    task := .none }

/-- Adds room for locals. -/
def extend (stack : Array Value) : Nat → Array Value
  | 0 => stack
  | n + 1 => extend (stack.push .undefined) n

/-- Runs a function next, whose values are on the stack. -/
def enter (f : Frame) : M Unit := update fun m =>
  let base := m.stack.size
  { m with
    stack := extend m.stack (f.code.locals + 1), frames := m.frame :: m.frames, depth := m.depth + 1
    frame := { f with base := base } }

/-! ## Leaving -/

/-- Goes back to the function that waits; says whether the one that is left was called by a built-in
function. -/
def popFrame : M Bool := updateGet fun m =>
  (m.frame.boundary.isSome,
    { m with
      stack := m.stack.shrink m.frame.floor, frame := m.frames.headD default, frames := m.frames.tail
      depth := m.depth - 1 })

/-- Hands a result to a script, which goes on with it, or to a built-in function. -/
def deliver (boundary : Bool) (v : Value) : M (Option Value) := do
  if boundary then return some v
  else
    Stack.push v
    return none

/-- The running function ends with a value. -/
def finish (v : Value) : M (Option Value) := do
  let (task, constructed) ← look fun m => (m.frame.task, if m.frame.construct then some m.frame.this else none)
  let boundary ← popFrame
  match task with
  | .none =>
    match constructed, v with
    | none, v => deliver boundary v
    | some _, .object _ => deliver boundary v
    | some this, _ => deliver boundary this
  | .promise k =>
    Promise.settle k (.ok v)
    deliver boundary k.promise
  | .generator g =>
    Heap.setKind g (.generator .done)
    deliver boundary (← Iter.result v true)
  | .asyncGenerator g =>
    Coroutine.setState g .done
    Coroutine.answer g (.ok v) true
    deliver boundary .undefined

/-! ## Suspending -/

/-- The running function as it would go on. -/
def suspended : M Suspended := look fun m => ⟨m.frame, m.stack.extract m.frame.floor m.stack.size⟩

/-- Numbers that tell code how it goes on. -/
def modeOf : Resumption → Value
  | .next => .nat 0
  | .throw => .nat 1
  | .return => .nat 2

/-- Goes on with a suspended function. -/
def reenter (s : Suspended) (how : Resumption) (v : Value) (boundary : Option String) : M Unit := update fun m =>
  let floor := m.stack.size
  { m with
    stack := ((m.stack ++ s.stack).push v).push (modeOf how), frames := m.frame :: m.frames, depth := m.depth + 1
    frame := { s.frame with
      base := floor + (s.frame.base - s.frame.floor), floor := floor, boundary := boundary } }

/-- A generator is made when its function is called, and does not run before it is asked to. -/
def startGenerator : M (Option Value) := do
  let f ← look (·.frame)
  let async := f.code.async
  let p ← prototypeOf f.func (if async then Intrinsic.asyncGeneratorPrototype else Intrinsic.generatorPrototype)
  let g ← Heap.allocKind (some p) .ordinary
  let s ← suspended
  let task : Task := if async then .asyncGenerator g else .generator g
  let s := { s with frame := { s.frame with task := task } }
  Heap.setKind g (if async then .asyncGenerator (.start s) [] else .generator (.start s))
  deliver (← popFrame) (.object g)

/-- A generator gives a value; an asynchronous one answers the request with it. -/
def yield (v : Value) (wrapped : Bool) : M (Option Value) := do
  let s ← suspended
  match s.frame.task with
  | .generator g =>
    Heap.setKind g (.generator (.suspended s))
    let boundary ← popFrame
    deliver boundary (← if wrapped then pure v else Iter.result v false)
  | .asyncGenerator g =>
    let v ← if wrapped then Object.getV v (.ofString "value") else pure v
    Coroutine.setState g (.suspended s)
    let boundary ← popFrame
    Coroutine.answer g (.ok v) false
    deliver boundary .undefined
  | _ => deliver (← popFrame) .undefined

/-- A function waits for a value; whoever called it gets its promise. -/
def await (v : Value) : M (Option Value) := do
  let s ← suspended
  let t ← Heap.allocKind none (.task s)
  Promise.await v (.resume t false) (.resume t true)
  let boundary ← popFrame
  match s.frame.task with
  | .promise k => deliver boundary k.promise
  | _ => deliver boundary .undefined

/-! ## Errors -/

/-- The running function goes on where it handles errors. -/
def goToHandler (h : Handler) (rest : List Handler) (v : Value) : M Unit := update fun m =>
  { m with
    stack := (m.stack.shrink (m.frame.base + h.height)).push v
    frame := { m.frame with pc := h.target, env := h.env, handlers := rest } }

/-- The outcome of a function that has been left because of an error: its result where there is one
that keeps the error, and otherwise the error. -/
def outcomeOf (task : Task) (e : Thrown) : M (Except Thrown Value) := do
  match ← e.toValue?, task with
  | some v, .promise k =>
    Promise.settle k (.error v)
    return .ok k.promise
  | some v, .asyncGenerator g =>
    Coroutine.setState g .done
    Coroutine.answer g (.error v) true
    return .ok .undefined
  | _, .generator g =>
    Heap.setKind g (.generator .done)
    return .error e
  | _, _ => return .error e

/-- How things go on after an error. -/
inductive Aftermath where
  /-- The function that runs now goes on. -/
  | goesOn
  /-- A built-in function gets the outcome. -/
  | ends (outcome : Except Thrown Value)

/-- Whether the running function handles an error; then it goes on there. -/
def handled (e : Thrown) : M Bool := do
  match ← look (·.frame.handlers) with
  | [] => return false
  | h :: rest =>
    match ← e.toValue? with
    | some v =>
      goToHandler h rest v
      return true
    | none => return false

/-- Looks for whoever handles an error, from the running function outwards, up to the first that was
called by a built-in function. -/
def unwind : Nat → Thrown → M Aftermath
  | 0, e => return .ends (.error e)
  | n + 1, e => do
    if ← handled e then return .goesOn
    let task ← look (·.frame.task)
    let boundary ← popFrame
    match task with
    | .none => if boundary then return .ends (.error e) else unwind n e
    | task =>
      match ← outcomeOf task e, boundary with
      | outcome, true => return .ends outcome
      | .ok v, false =>
        Stack.push v
        return .goesOn
      | .error e, false => unwind n e

/-- What follows an error that the running function has met. -/
def recover (e : Thrown) : M Aftermath := do
  let e ← Trace.attach e
  unwind ((← look (·.depth)) + 1) e

end Call

end Playpen.Engine
