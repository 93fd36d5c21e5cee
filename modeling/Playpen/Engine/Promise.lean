import Playpen.Engine.Iteration

/-!
# Promises

A promise is settled once; what waits for it then becomes a job.
-/

namespace Playpen.Engine

open M

namespace Promise

def newPending (proto : Ref) : M Ref := Heap.allocKind (some proto) (.promise (.pending #[] #[]) false)

def isPromise (v : Value) : M Bool := do
  match v with
  | .object r =>
    match ← Heap.kindOf r with
    | .promise _ _ => return true
    | _ => return false
  | _ => return false

def enqueue (j : Job) : M Unit := update fun m => { m with jobs := m.jobs.push j }

def enqueueAll (rs : Array Reaction) (v : Value) : M Unit := rs.forM fun r => enqueue (.reaction r v)

def fulfil (r : Ref) (v : Value) : M Unit := do
  match ← Heap.kindOf r with
  | .promise (.pending waiting _) handled =>
    Heap.setKind r (.promise (.fulfilled v) handled)
    enqueueAll waiting v
  | _ => pure ()

def reject (r : Ref) (v : Value) : M Unit := do
  match ← Heap.kindOf r with
  | .promise (.pending _ waiting) handled =>
    Heap.setKind r (.promise (.rejected v) handled)
    enqueueAll waiting v
  | _ => pure ()

/-- Settles a promise with a value, or makes it follow the promise that the value is. -/
def resolve (r : Ref) (v : Value) : M Unit := do
  match v with
  | .object o =>
    if o == r then reject r (← makeError .type "SelfResolutionError")
    else
      match ← catching (Object.getNamed o "then") with
      | .error e => reject r e
      | .ok f => if ← Object.isCallable f then enqueue (.thenable r v f) else fulfil r v
  | v => fulfil r v

/-- A new function of the engine that carries values. -/
def newNative (fn : Native) (length : Nat) (captures : Array Value) : M Value := do
  let r ← Heap.allocKind (some Intrinsic.functionPrototype) (.native fn false captures)
  Heap.setSlot r (.ofString "length") (.data (.nat length) .configurableOnly)
  Heap.setSlot r (.ofString "name") (.data (.str "") .configurableOnly)
  return .object r

/-- A flag that functions share. -/
def newFlag : M Value := return .object (← Heap.allocKind none (.wrapper (.bool false)))

/-- Sets a flag; says whether it was set before. -/
def raiseFlag (v : Value) : M Bool := do
  match v with
  | .object r =>
    match ← Heap.kindOf r with
    | .wrapper (.bool true) => return true
    | _ =>
      Heap.setKind r (.wrapper (.bool true))
      return false
  | _ => return true

/-- The functions that settle a promise; only the first call of either counts. -/
def settlers (r : Ref) : M (Value × Value) := do
  let flag ← newFlag
  return (← newNative .promiseResolve 1 #[.object r, flag], ← newNative .promiseReject 1 #[.object r, flag])

/-- A new promise of a constructor with the functions that settle it. -/
def newCapability (c : Value) : M Capability := do
  match c with
  | .object r =>
    if r == Intrinsic.promise then
      let p ← newPending Intrinsic.promisePrototype
      let (resolve, reject) ← settlers p
      return ⟨.object p, resolve, reject⟩
    else custom
  | _ => custom
where
  custom : M Capability := do
    if !(← Object.isConstructor c) then typeError "PromiseCapability is not a constructor"
    let holder ← Heap.allocKind none (.array #[.undefined, .undefined] 2 true)
    let executor ← newNative .capabilityExecutor 2 #[.object holder]
    let p ← construct c #[executor] c
    match ← Heap.kindOf holder with
    | .array items _ _ =>
      let resolve := items.getD 0 .undefined
      let reject := items.getD 1 .undefined
      if !(← Object.isCallable resolve) then typeError "promiseCapability.[[Resolve]] is not callable"
      if !(← Object.isCallable reject) then typeError "promiseCapability.[[Reject]] is not callable"
      return ⟨p, resolve, reject⟩
    | _ => typeError "promiseCapability.[[Resolve]] is not callable"

/-- A capability of the built-in constructor. -/
def plainCapability : M Capability := newCapability (.object Intrinsic.promise)

/-- The promise that a value is, or one that is settled with it. -/
def ofValue (c : Value) (v : Value) : M Value := do
  let existing ← do
    if ← isPromise v then
      pure ((← Object.getV v (.ofString "constructor")).same c)
    else pure false
  if existing then return v
  else
    let k ← newCapability c
    discard (call k.resolve .undefined #[v])
    return k.promise

/-- Adds what happens when a promise is settled. -/
def react (r : Ref) (fulfilled rejected : ReactionHandler) (capability : Option Capability) : M Unit := do
  let a : Reaction := ⟨capability, fulfilled⟩
  let b : Reaction := ⟨capability, rejected⟩
  match ← Heap.kindOf r with
  | .promise (.pending fs rs) _ => Heap.setKind r (.promise (.pending (fs.push a) (rs.push b)) true)
  | .promise (.fulfilled v) _ =>
    Heap.setKind r (.promise (.fulfilled v) true)
    enqueue (.reaction a v)
  | .promise (.rejected v) _ =>
    Heap.setKind r (.promise (.rejected v) true)
    enqueue (.reaction b v)
  | _ => pure ()

/-- Waits for a value as `await` does. -/
def await (v : Value) (fulfilled rejected : ReactionHandler) : M Unit := do
  match ← ofValue (.object Intrinsic.promise) v with
  | .object r => react r fulfilled rejected none
  | _ => pure ()

def handlerOf (f : Value) (otherwise : ReactionHandler) : M ReactionHandler := do
  if ← Object.isCallable f then return .script f else return otherwise

/-- Settles a capability by an outcome. -/
def settle (k : Capability) : Except Value Value → M Unit
  | .ok v => discard (call k.resolve .undefined #[v])
  | .error e => discard (call k.reject .undefined #[e])

end Promise

end Playpen.Engine
