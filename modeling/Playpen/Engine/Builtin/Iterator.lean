import Playpen.Engine.Builtin.Regex
import Playpen.Engine.Builtin.Collection
import Playpen.Engine.Coroutine

/-!
# Built-in functions: iterators and generators
-/

namespace Playpen.Engine

open M
open Playpen.Text (Wide)

namespace Builtin.Iterators

def wrong (name : String) : M α := typeError s!"\x60this\x60 is not an {name}"

/-- An item as an iterator of a kind gives it. -/
def item (kind : IterationKind) (k : Value) (v : M Value) : M Value := do
  match kind with
  | .keys => return k
  | .values => v
  | .entries => Object.newArray #[k, ← v]

/-- How many items the target of an array iterator has. -/
def lengthOfTarget (r : Ref) : M Nat := do
  match ← Heap.kindOf r with
  | .typedArray _ _ _ length => return length
  | _ => lengthOf r

def arrayNext : Behaviour := fun i => do
  match i.this with
  | .object r =>
    match ← Heap.kindOf r with
    | .arrayIterator (.object target) k kind =>
      if k ≥ (← lengthOfTarget target) then
        Heap.setKind r (.arrayIterator .undefined 0 kind)
        Iter.result .undefined true
      else
        Heap.setKind r (.arrayIterator (.object target) (k + 1) kind)
        Iter.result (← item kind (.nat k) (Object.get target (.ofNat k))) false
    | .arrayIterator _ _ _ => Iter.result .undefined true
    | _ => wrong "ArrayIterator"
  | _ => wrong "ArrayIterator"

def textNext : Behaviour := fun i => do
  match i.this with
  | .object r =>
    match ← Heap.kindOf r with
    | .textIterator w k =>
      match Builtin.Texts.codePointAt w.units k with
      | none => Iter.result .undefined true
      | some (_, n) =>
        Heap.setKind r (.textIterator w (k + n))
        Iter.result (.text (w.slice k (k + n))) false
    | _ => wrong "StringIterator"
  | _ => wrong "StringIterator"

/-- The next entry of a map or set from a place on, with the place behind it. -/
def nextEntry (items : Array (Option (Value × Value))) (k : Nat) : Option (Value × Value × Nat) :=
  if h : k < items.size then
    match items[k] with
    | some (a, b) => some (a, b, k + 1)
    | none => nextEntry items (k + 1)
  else none
termination_by items.size - k

def collectionNext (s : Collections.Family) : Behaviour := fun i => do
  match i.this with
  | .object r =>
    match ← Heap.kindOf r, s with
    | .mapIterator target k kind, .map => go r target k kind fun t n => .mapIterator t n kind
    | .setIterator target k kind, .set => go r target k kind fun t n => .setIterator t n kind
    | _, _ => wrong s!"{s.name}Iterator"
  | _ => wrong s!"{s.name}Iterator"
where
  go (r : Ref) (target : Value) (k : Nat) (kind : IterationKind) (make : Value → Nat → Kind) : M Value := do
    match target with
    | .object t =>
      let found ← look fun m =>
        match Collections.entriesOf? s (m.heap.getD t default).kind with
        | some e => nextEntry e.items k
        | none => none
      match found with
      | some (a, b, n) =>
        Heap.setKind r (make target n)
        Iter.result (← item kind a (pure b)) false
      | none =>
        Heap.setKind r (make .undefined 0)
        Iter.result .undefined true
    | _ => Iter.result .undefined true

def regexNext : Behaviour := fun i => do
  match i.this with
  | .object r =>
    match ← Heap.kindOf r with
    | .regexIterator (.object x) w global unicode false =>
      match ← Regexes.exec x w with
      | .object m =>
        if global then
          if (← toText (← Object.get m (.index 0))).isEmpty then Regexes.passEmpty x w unicode
        else Heap.setKind r (.regexIterator (.object x) w global unicode true)
        Iter.result (.object m) false
      | _ =>
        Heap.setKind r (.regexIterator (.object x) w global unicode true)
        Iter.result .undefined true
    | .regexIterator _ _ _ _ _ => Iter.result .undefined true
    | _ => wrong "RegExpStringIterator"
  | _ => wrong "RegExpStringIterator"

/-! ## Asynchronous iteration over what is not -/

/-- Answers with what an item's promise will be. -/
def continued (result : M Value) : M Value := do
  let k ← Promise.plainCapability
  match ← catching (do
      match ← result with
      | .object r => return ((← Object.getNamed r "done").truthy, ← Object.getNamed r "value")
      | _ => typeError "next value should be an object") with
  | .error e => Promise.settle k (.error e)
  | .ok (done, v) =>
    match ← catching (Promise.ofValue (.object Intrinsic.promise) v) with
    | .error e => Promise.settle k (.error e)
    | .ok (.object p) =>
      let f ← Promise.newNative .asyncFromSyncUnwrap 1 #[.bool done]
      Promise.react p (.script f) .thrower (some k)
    | .ok _ => pure ()
  return k.promise

def syncParts (i : Invocation) : M Iter := do
  match i.this with
  | .object r =>
    match ← Heap.kindOf r with
    | .asyncFromSync it next => return ⟨it, next⟩
    | _ => wrong "AsyncFromSyncIterator"
  | _ => wrong "AsyncFromSyncIterator"

def asyncNext : Behaviour := fun i => do
  let it ← syncParts i
  continued (call it.next it.iterator (i.args.extract 0 1))

def asyncReturn : Behaviour := fun i => do
  let it ← syncParts i
  match ← catching (Object.getMethod it.iterator (.ofString "return")) with
  | .ok none => continued (Iter.result (i.arg 0) true)
  | .ok (some f) => continued (call f it.iterator (i.args.extract 0 1))
  | .error e => continued (throwValue e)

def asyncThrow : Behaviour := fun i => do
  let it ← syncParts i
  match ← catching (Object.getMethod it.iterator (.ofString "throw")) with
  | .ok none =>
    continued do
      Iter.close it
      typeError "sync iterator does not have a throw method"
  | .ok (some f) => continued (call f it.iterator (i.args.extract 0 1))
  | .error e => continued (throwValue e)

def build : Build Unit := do
  let base := Intrinsic.iteratorPrototype
  Build.symbolMethod base Sym.iterator "[Symbol.iterator]" 0 fun i => return i.this
  Build.symbolMethod Intrinsic.asyncIteratorPrototype Sym.asyncIterator "[Symbol.asyncIterator]" 0 fun i =>
    return i.this
  let next (p : Ref) (tag : String) (f : Behaviour) : Build Unit := do
    Build.prototype p base
    Build.method p "next" 0 f
    Build.tag p tag
  Build.prototype Intrinsic.arrayIteratorPrototype base
  Build.functionAt Intrinsic.arrayIteratorNext "next" 0 arrayNext
  Build.hidden Intrinsic.arrayIteratorPrototype "next" (.object Intrinsic.arrayIteratorNext)
  Build.tag Intrinsic.arrayIteratorPrototype "Array Iterator"
  next Intrinsic.textIteratorPrototype "String Iterator" textNext
  next Intrinsic.mapIteratorPrototype "Map Iterator" (collectionNext .map)
  next Intrinsic.setIteratorPrototype "Set Iterator" (collectionNext .set)
  next Intrinsic.regexIteratorPrototype "RegExp String Iterator" regexNext
  -- generators
  let g := Intrinsic.generatorPrototype
  Build.prototype g base
  Build.method g "next" 1 fun i => Coroutine.send i.this .next (i.arg 0)
  Build.method g "return" 1 fun i => Coroutine.send i.this .return (i.arg 0)
  Build.method g "throw" 1 fun i => Coroutine.send i.this .throw (i.arg 0)
  Build.tag g "Generator"
  link Intrinsic.generatorFunctionPrototype g
  let a := Intrinsic.asyncGeneratorPrototype
  Build.prototype a Intrinsic.asyncIteratorPrototype
  Build.method a "next" 1 fun i => Coroutine.request i.this .next (i.arg 0)
  Build.method a "return" 1 fun i => Coroutine.request i.this .return (i.arg 0)
  Build.method a "throw" 1 fun i => Coroutine.request i.this .throw (i.arg 0)
  Build.tag a "AsyncGenerator"
  link Intrinsic.asyncGeneratorFunctionPrototype a
  let s := Intrinsic.asyncFromSyncPrototype
  Build.prototype s Intrinsic.asyncIteratorPrototype
  Build.method s "next" 1 asyncNext
  Build.method s "return" 1 asyncReturn
  Build.method s "throw" 1 asyncThrow
where
  /-- Functions of a kind have the prototype of their generators as `prototype`. -/
  link (functions generators : Ref) : Build Unit := do
    Build.define functions (.ofString "prototype") (.data (.object generators) .configurableOnly)
    Build.define generators (.ofString "constructor") (.data (.object functions) .configurableOnly)

end Builtin.Iterators

end Playpen.Engine
