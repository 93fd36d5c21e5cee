import Playpen.Engine.Convert

/-!
# Iteration

Getting, advancing and closing iterators.
-/

namespace Playpen.Engine

open M
open Playpen.Text (Wide)

/-- An iterator with its method `next`. -/
structure Iter where
  iterator : Value
  next : Value
  deriving Inhabited

namespace Iter

def ofValue (v : Value) : M Iter := do
  match v with
  | .object _ => return ⟨v, ← Object.getV v (.ofString "next")⟩
  | _ => typeError "returned iterator is not an object"

def notIterable (v : Value) : M α := do
  typeError s!"value with type \x60{← typeOf v}\x60 is not iterable"

/-- The iterator of a value. -/
def get (v : Value) : M Iter := do
  match v with
  | .undefined | .null => notIterable v
  | _ =>
    match ← Object.getV v (.symbol Sym.iterator) with
    | .undefined | .null => notIterable v
    | f => ofValue (← call f v #[])

/-- An asynchronous iterator that takes its items from another one. -/
def asyncFromSync (i : Iter) : M Iter := do
  let r ← Heap.allocKind (some Intrinsic.asyncFromSyncPrototype) (.asyncFromSync i.iterator i.next)
  ofValue (.object r)

def getAsync (v : Value) : M Iter := do
  match v with
  | .undefined | .null => notIterable v
  | _ =>
    match ← Object.getV v (.symbol Sym.asyncIterator) with
    | .undefined | .null => asyncFromSync (← get v)
    | f => ofValue (← call f v #[])

def resultObject (v : Value) : M Ref := do
  match v with
  | .object r => return r
  | _ => typeError "next value should be an object"

/-- Whether an iterator's result is its last, and otherwise the item. -/
def unwrap (r : Ref) : M (Option Value) := do
  if (← Object.getNamed r "done").truthy then return none else return some (← Object.getNamed r "value")

/-- The next item. -/
def step (i : Iter) : M (Option Value) := do
  unwrap (← resultObject (← call i.next i.iterator #[]))

/-- Tells an iterator that no more items are wanted. -/
def close (i : Iter) : M Unit := do
  match ← Object.getMethod i.iterator (.ofString "return") with
  | none => pure ()
  | some f =>
    match ← call f i.iterator #[] with
    | .object _ => pure ()
    | _ => typeError "inner result was not an object"

/-- Closes an iterator because of an error, which stays the one that counts. -/
def closeFor (i : Iter) (e : Thrown) : M α := do
  match e with
  | .limit _ _ => fail e
  | e =>
    match ← attempt (close i) with
    | .error (.limit m t) => fail (.limit m t)
    | _ => fail e

/-- Runs a computation on an item; if it fails, the iterator is closed. -/
def guarded (i : Iter) (x : M α) : M α := handle x fun e => closeFor i e

/-- The longest iteration. -/
def bound : Nat := 1000000000

/-- Goes through all items with a state. -/
def foldFrom (i : Iter) (f : σ → Value → M σ) : Nat → σ → M σ
  | 0, s => return s
  | n + 1, s => do
    match ← step i with
    | none => return s
    | some v => foldFrom i f n (← guarded i (f s v))

def forEach (v : Value) (f : Value → M Unit) : M Unit := do
  foldFrom (← get v) (fun _ x => f x) bound ()

/-- The elements of an array whose iteration nothing has changed. -/
def plainElements (v : Value) : M (Option (Array Value)) := do
  match v with
  | .object r =>
    let o ← Heap.getObj r
    match o.kind with
    | .array items length _ =>
      if items.size != length || o.proto != some Intrinsic.arrayPrototype || o.props.entries.size != 0 then return none
      else if items.any Value.isHole then return none
      else
        let same (o : Ref) (k : PropKey) (want : Ref) : M Bool := do
          match (← Heap.getObj o).props.get? k with
          | some (.data (.object f) _) => return f == want
          | _ => return false
        -- the array iterator's own method is the first property of its prototype
        let p ← Heap.getObj Intrinsic.arrayIteratorPrototype
        let untouched := match p.props.get? (.ofString "next") with
          | some (.data (.object f) ⟨true, false, true⟩) => f == Intrinsic.arrayIteratorNext
          | _ => false
        if (← same Intrinsic.arrayPrototype (.symbol Sym.iterator) Intrinsic.arrayValues) && untouched then
          return some items
        else return none
    | _ => return none
  | _ => return none

/-- All items of a value. -/
def toArray (v : Value) : M (Array Value) := do
  match ← plainElements v with
  | some items => return items
  | none => foldFrom (← get v) (fun acc x => return acc.push x) bound #[]

/-- What an iterator gives: an item, or its end. -/
def result (v : Value) (done : Bool) : M Value := do
  let r ← Object.newObject
  Heap.setData r (.ofString "value") v
  Heap.setData r (.ofString "done") (.bool done)
  return .object r

end Iter

namespace Object

def listFrom (r : Ref) : Nat → Nat → Array Value → M (Array Value)
  | 0, _, acc => return acc
  | n + 1, i, acc => do listFrom r n (i + 1) (acc.push (← get r (.ofNat i)))

/-- The elements of an object that is like an array. -/
def listOf (v : Value) : M (Array Value) := do
  match v with
  | .object r =>
    match ← Heap.getObj r with
    | ⟨_, _, _, _, .array items length _⟩ =>
      if items.size == length && !items.any Value.isHole then return items
      else listFrom r length 0 #[]
    | _ => listFrom r (← lengthOf r) 0 #[]
  | _ => typeError "cannot create list from non-object"

end Object

end Playpen.Engine
