import Playpen.Engine.Iteration

/-!
# Making functions

The objects that closures become, with the properties each kind of function has.
-/

namespace Playpen.Engine

open M

namespace Closure

/-- A closure that knows nothing of what is around it. -/
def ofCode (code : Code) (env : Nat) : Closure :=
  ⟨code, env, .undefined, .undefined, .undefined, .undefined, .undefined⟩

/-- The prototype of functions like this one. -/
def protoOf (c : Code) : Ref :=
  match c.async, c.generator with
  | false, false => Intrinsic.functionPrototype
  | false, true => Intrinsic.generatorFunctionPrototype
  | true, false => Intrinsic.asyncFunctionPrototype
  | true, true => Intrinsic.asyncGeneratorFunctionPrototype

/-- Properties that every function begins with. -/
def startProps (length : Nat) (name : String) : Props :=
  .ofList [(.ofString "length", .data (.nat length) .configurableOnly),
    (.ofString "name", .data (.str name) .configurableOnly)]

def prototypeKey : PropKey := .text (.plain "prototype")

/-- The function object of a closure. -/
def alloc (c : Closure) : M Ref := do
  let f ← Heap.alloc ⟨some (protoOf c.code), true, startProps c.code.length c.code.name, .empty, .closure c⟩
  if c.code.generator then
    let p ← Heap.allocKind
      (some (if c.code.async then Intrinsic.asyncGeneratorPrototype else Intrinsic.generatorPrototype)) .ordinary
    Heap.setSlot f prototypeKey (.data (.object p) ⟨true, false, false⟩)
  else if c.code.kind == .normal && !c.code.async then
    let p ← Object.newObject
    Heap.setSlot p (.ofString "constructor") (.data (.object f) .hidden)
    Heap.setSlot f prototypeKey (.data (.object p) ⟨true, false, false⟩)
  return f

/-- A class: its constructor and its prototype. -/
def allocClass (c : Closure) (parent : Option Value) : M (Ref × Ref) := do
  let (protoParent, parentFunction) ← match parent with
    | none => pure (some Intrinsic.objectPrototype, Intrinsic.functionPrototype)
    | some .null => pure (none, Intrinsic.functionPrototype)
    | some v =>
      if !(← Object.isConstructor v) then typeError "superclass must be a constructor"
      match v with
      | .object f =>
        match ← Object.getNamed f "prototype" with
        | .object p => pure (some p, f)
        | .null => pure (none, f)
        | _ => typeError "superclass prototype must be an object or null"
      | _ => typeError "superclass must be a constructor"
  let p ← Heap.allocKind protoParent .ordinary
  let f ← Heap.alloc ⟨some parentFunction, true, startProps c.code.length c.code.name, .empty,
    .closure { c with home := .object p }⟩
  Heap.setSlot f prototypeKey (.data (.object p) .none)
  Heap.setSlot p (.ofString "constructor") (.data (.object f) .hidden)
  return (f, p)

/-- A function's name, as it is told when it is made. -/
def setName (f : Value) (name : String) : M Unit := do
  match f with
  | .object r => Heap.setSlot r (.ofString "name") (.data (.str name) .configurableOnly)
  | _ => pure ()

/-- The name that a function gets from its key. -/
def nameOfKey (k : PropKey) : M String := do
  match k with
  | .symbol id =>
    match ← look fun m => m.symbols.getD id none with
    | some d => return "[" ++ d.display ++ "]"
    | none => return ""
  | k => return k.wide.display

end Closure

end Playpen.Engine
