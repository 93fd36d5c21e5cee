import Playpen.Engine.Builtin.Basic

/-!
# Built-in functions: promises
-/

namespace Playpen.Engine

open M

namespace Builtin.Promises

/-! ## Functions that are made while scripts run -/

def capture (cs : Array Value) (n : Nat) : Value := cs.getD n .undefined

/-- Settles the promise that it carries, unless its partner or itself has been called. -/
def settler (fulfils : Bool) : Behaviour := fun i => do
  let cs ← i.captures
  if !(← Promise.raiseFlag (capture cs 1)) then
    match capture cs 0 with
    | .object p => if fulfils then Promise.resolve p (i.arg 0) else Promise.reject p (i.arg 0)
    | _ => pure ()
  return .undefined

/-- Keeps the functions that a constructor hands to it. -/
def executor : Behaviour := fun i => do
  let cs ← i.captures
  match capture cs 0 with
  | .object holder =>
    match ← Heap.kindOf holder with
    | .array items _ _ =>
      if !(items.getD 0 .undefined).isUndefined then typeError "promiseCapability.[[Resolve]] is not undefined"
      if !(items.getD 1 .undefined).isUndefined then typeError "promiseCapability.[[Reject]] is not undefined"
      Heap.setKind holder (.array #[i.arg 0, i.arg 1] 2 true)
    | _ => pure ()
  | _ => pure ()
  return .undefined

/-- Goes on with a value once the function of `finally` is done. -/
def afterFinally (throws : Bool) : Behaviour := fun i => do
  let cs ← i.captures
  let result ← call (capture cs 0) .undefined #[]
  let p ← Promise.ofValue (capture cs 1) result
  let f ← Promise.newNative (if throws then .thrower else .constant) 0 #[i.arg 0]
  Object.invoke p (.ofString "then") #[f]

def constant : Behaviour := fun i => return capture (← i.captures) 0

def thrower : Behaviour := fun i => do throwValue (capture (← i.captures) 0)

/-- The result of an iterator whose item has been waited for. -/
def unwrapped : Behaviour := fun i => do
  Iter.result (i.arg 0) (capture (← i.captures) 0).truthy

/-! ## Counting what is outstanding -/

/-- Takes one off a counter; says whether none is left. -/
def countDown (counter : Value) : M Bool := do
  match counter with
  | .object r =>
    match ← Heap.kindOf r with
    | .wrapper (.number x) =>
      Heap.setKind r (.wrapper (.number (x - 1)))
      return x == 1
    | _ => return false
  | _ => return false

def countUp (counter : Value) : M Unit := do
  match counter with
  | .object r => Heap.modifyObj r fun o =>
    match o.kind with
    | .wrapper (.number x) => { o with kind := .wrapper (.number (x + 1)) }
    | _ => o
  | _ => pure ()

/-- How the outcomes of many promises are put together. -/
inductive Combination where
  | all | settled | any
  deriving DecidableEq

def holderItems (holder : Value) : M (Array Value) := do
  match holder with
  | .object r =>
    match ← Heap.kindOf r with
    | .array items _ _ => return items
    | _ => return #[]
  | _ => return #[]

/-- All outcomes are there. -/
def finish (c : Combination) (holder settle : Value) : M Unit := do
  let items ← holderItems holder
  match c with
  | .any =>
    let e ← makeError .aggregate "no promise in Promise.any was fulfilled."
    match e with
    | .object r => Heap.setSlot r (.ofString "errors") (.data (← Object.newArray items) .hidden)
    | _ => pure ()
    discard (call settle .undefined #[e])
  | _ => discard (call settle .undefined #[← Object.newArray items])

/-- What an outcome is reported as. -/
def report (which : Nat) (v : Value) : M Value := do
  let described (status key : String) : M Value := do
    let o ← Object.newObject
    Heap.setData o (.ofString "status") (.str status)
    Heap.setData o (.ofString key) v
    return .object o
  match which with
  | 1 => described "fulfilled" "value"
  | 2 => described "rejected" "reason"
  | _ => return v

def combinationOf : Nat → Combination
  | 0 => .all
  | 3 => .any
  | _ => .settled

/-- Takes the outcome of one of many promises. -/
def element (which : Nat) : Behaviour := fun i => do
  let cs ← i.captures
  if ← Promise.raiseFlag (capture cs 4) then return .undefined
  let v ← report which (i.arg 0)
  match capture cs 0, capture cs 1 with
  | .object holder, .number k => Heap.modifyObj holder fun o =>
    match o.kind with
    | .array items n w => { o with kind := .array (items.setIfInBounds k.toUInt64.toNat v) n w }
    | _ => o
  | _, _ => pure ()
  if ← countDown (capture cs 3) then finish (combinationOf which) (capture cs 0) (capture cs 2)
  return .undefined

/-! ## Combinations -/

/-- The method by which a constructor makes promises of values. -/
def resolverOf (c : Value) : M Value := do
  let f ← Object.getV c (.ofString "resolve")
  if !(← Object.isCallable f) then typeError "promise resolve is not callable"
  return f

/-- Runs a step that may fail; a failure rejects the capability's promise. -/
def orReject (k : Capability) (x : M Unit) : M Value := do
  match ← catching x with
  | .ok () => return k.promise
  | .error e =>
    Promise.settle k (.error e)
    return k.promise

def combine (c : Combination) : Behaviour := fun i => do
  let k ← Promise.newCapability i.this
  orReject k do
    let make ← resolverOf i.this
    let it ← Iter.get (i.arg 0)
    let holderRef ← Heap.allocKind none (.array #[] 0 true)
    let holder := Value.object holderRef
    let counter := Value.object (← Heap.allocKind none (.wrapper (.number 1)))
    let settle := if c == .any then k.reject else k.resolve
    let one (index : Nat) (v : Value) : M Nat := do
      Heap.modifyObj holderRef fun o =>
        match o.kind with
        | .array items n w => { o with kind := .array (items.push .undefined) (n + 1) w }
        | _ => o
      let p ← call make i.this #[v]
      let flag ← Promise.newFlag
      countUp counter
      let native (which : Nat) : M Value :=
        Promise.newNative (.combinatorElement which) 1 #[holder, .nat index, settle, counter, flag]
      let (onFulfilled, onRejected) ← match c with
        | .all => do pure (← native 0, k.reject)
        | .settled => do pure (← native 1, ← native 2)
        | .any => do pure (k.resolve, ← native 3)
      discard (Object.invoke p (.ofString "then") #[onFulfilled, onRejected])
      return index + 1
    discard (Iter.foldFrom it one Iter.bound 0)
    if ← countDown counter then finish c holder settle

def race : Behaviour := fun i => do
  let k ← Promise.newCapability i.this
  orReject k do
    let make ← resolverOf i.this
    Iter.forEach (i.arg 0) fun v => do
      let p ← call make i.this #[v]
      discard (Object.invoke p (.ofString "then") #[k.resolve, k.reject])

/-! ## The constructor -/

def construct : Behaviour := fun i => do
  if !i.isConstruct then typeError "Promise NewTarget cannot be undefined"
  if !(← Object.isCallable (i.arg 0)) then typeError "Promise executor is not callable"
  let r ← Promise.newPending (← i.proto Intrinsic.promisePrototype)
  let (resolve, reject) ← Promise.settlers r
  match ← catching (call (i.arg 0) .undefined #[resolve, reject]) with
  | .ok _ => pure ()
  | .error e => discard (call reject .undefined #[e])
  return .object r

def requireObject (v : Value) (name : String) : M Unit := do
  if !v.isObject then typeError s!"Promise.{name}() called on a non-object"

def thisPromise (i : Invocation) (name : String) : M Ref := do
  match i.this with
  | .object r =>
    match ← Heap.kindOf r with
    | .promise _ _ => return r
    | _ => typeError s!"Promise.prototype.{name} called on a non-promise object"
  | _ => typeError s!"Promise.prototype.{name} called on a non-promise object"

/-- The constructor for promises that come from another one. -/
def species (r : Ref) : M Value := do
  match ← Object.getNamed r "constructor" with
  | .undefined => return .object Intrinsic.promise
  | .object c =>
    match ← Object.get c (.symbol Sym.species) with
    | .undefined | .null => return .object Intrinsic.promise
    | s => if ← Object.isConstructor s then return s else typeError "property 'constructor' is not a constructor"
  | _ => typeError "property 'constructor' is not an object"

def then_ : Behaviour := fun i => do
  let r ← thisPromise i "then"
  let k ← Promise.newCapability (← species r)
  Promise.react r (← Promise.handlerOf (i.arg 0) .identity) (← Promise.handlerOf (i.arg 1) .thrower) (some k)
  return k.promise

def finally_ : Behaviour := fun i => do
  match i.this with
  | .object r =>
    let c ← species r
    let f := i.arg 0
    if ← Object.isCallable f then
      let a ← Promise.newNative .thenFinally 1 #[f, c]
      let b ← Promise.newNative .catchFinally 1 #[f, c]
      Object.invoke i.this (.ofString "then") #[a, b]
    else Object.invoke i.this (.ofString "then") #[f, f]
  | _ => typeError "Promise.prototype.finally called with a non-object promise"

def withResolvers : Behaviour := fun i => do
  let k ← Promise.newCapability i.this
  let o ← Object.newObject
  Heap.setData o (.ofString "promise") k.promise
  Heap.setData o (.ofString "resolve") k.resolve
  Heap.setData o (.ofString "reject") k.reject
  return .object o

def try_ : Behaviour := fun i => do
  requireObject i.this "try"
  let k ← Promise.newCapability i.this
  Promise.settle k (← catching (call (i.arg 0) .undefined (i.rest 1)))
  return k.promise

def build : Build Unit := do
  let c := Intrinsic.promise
  let p := Intrinsic.promisePrototype
  Build.constructor c p "Promise" 1 construct
  Build.species c
  Build.method c "all" 1 (combine .all)
  Build.method c "allSettled" 1 (combine .settled)
  Build.method c "any" 1 (combine .any)
  Build.method c "race" 1 race
  Build.method c "reject" 1 fun i => do
    let k ← Promise.newCapability i.this
    Promise.settle k (.error (i.arg 0))
    return k.promise
  Build.method c "resolve" 1 fun i => do
    requireObject i.this "resolve"
    Promise.ofValue i.this (i.arg 0)
  Build.method c "withResolvers" 0 withResolvers
  Build.method c "try" 1 try_
  Build.method p "then" 2 then_
  Build.method p "catch" 1 fun i => Object.invoke i.this (.ofString "then") #[.undefined, i.arg 0]
  Build.method p "finally" 1 finally_
  Build.tag p "Promise"

end Builtin.Promises

end Playpen.Engine
