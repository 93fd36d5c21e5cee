import Playpen.Engine.Promise

/-!
# Built-in functions

A built-in function gets an `Invocation`.  The objects that scripts find when they start are laid
out by a `Build`, which keeps the objects' places and the functions behind them together.
-/

namespace Playpen.Engine

open M
open Playpen.Text (Wide)

/-- A call of a built-in function. -/
structure Invocation where
  this : Value
  args : Array Value
  /-- The constructor that `new` was used on; undefined in a plain call. -/
  newTarget : Value
  self : Ref

namespace Invocation

def arg (i : Invocation) (n : Nat) : Value := i.args.getD n .undefined

def isConstruct (i : Invocation) : Bool := !i.newTarget.isUndefined

/-- The prototype that new objects get. -/
def proto (i : Invocation) (standard : Ref) : M Ref := do
  match i.newTarget with
  | .object r =>
    match ← Object.getNamed r "prototype" with
    | .object p => return p
    | _ => return standard
  | _ => return standard

/-- A new object of a kind. -/
def create (i : Invocation) (standard : Ref) (kind : Kind) : M Value := do
  return .object (← Heap.allocKind (some (← i.proto standard)) kind)

/-- Values that the function carries. -/
def captures (i : Invocation) : M (Array Value) := do
  match ← Heap.kindOf i.self with
  | .native _ _ captures => return captures
  | _ => return #[]

/-- The arguments from a place on. -/
def rest (i : Invocation) (n : Nat) : Array Value := i.args.extract n i.args.size

end Invocation

/-- What a built-in function does. -/
abbrev Behaviour := Invocation → M Value

/-! ## Building -/

/-- Objects and functions laid out so far. -/
structure Layout where
  heap : Array Obj
  natives : Array Behaviour

abbrev Build := StateM Layout

namespace Build

def plainObject (proto : Option Ref) : Obj := ⟨proto, true, .empty, .empty, .ordinary⟩

/-- Changes an object. -/
def modifyObj (r : Ref) (f : Obj → Obj) : Build Unit := modify fun l => { l with heap := l.heap.modify r f }

def setProto (r : Ref) (p : Option Ref) : Build Unit := modifyObj r fun o => { o with proto := p }

def setKind (r : Ref) (k : Kind) : Build Unit := modifyObj r fun o => { o with kind := k }

def define (r : Ref) (k : PropKey) (s : Slot) : Build Unit := modifyObj r fun o => { o with props := o.props.set k s }

def alloc (o : Obj) : Build Ref := do
  let l ← get
  set { l with heap := l.heap.push o }
  return l.heap.size

/-- Sets a property as built-in methods have theirs. -/
def hidden (r : Ref) (name : String) (v : Value) : Build Unit := define r (.ofString name) (.data v .hidden)

/-- Sets a property that never changes. -/
def constant (r : Ref) (name : String) (v : Value) : Build Unit := define r (.ofString name) (.data v .none)

/-- The tag that `toString` shows. -/
def tag (r : Ref) (name : String) : Build Unit :=
  define r (.symbol Sym.toStringTag) (.data (.str name) .configurableOnly)

/-- The parts of a function object. -/
def functionObj (name : String) (length : Nat) (kind : Kind) (proto : Ref) : Obj :=
  ⟨some proto, true,
    .ofList [(.ofString "length", .data (.nat length) .configurableOnly),
      (.ofString "name", .data (.str name) .configurableOnly)], .empty, kind⟩

def behave (f : Behaviour) : Build Native := do
  let l ← get
  set { l with natives := l.natives.push f }
  return .listed l.natives.size

/-- A new function. -/
def function (name : String) (length : Nat) (f : Behaviour) : Build Ref := do
  let n ← behave f
  alloc (functionObj name length (.native n false #[]) Intrinsic.functionPrototype)

/-- A function at a fixed place. -/
def functionAt (r : Ref) (name : String) (length : Nat) (f : Behaviour) : Build Unit := do
  let n ← behave f
  modifyObj r fun _ => functionObj name length (.native n false #[]) Intrinsic.functionPrototype

def method (r : Ref) (name : String) (length : Nat) (f : Behaviour) : Build Unit := do
  hidden r name (.object (← function name length f))

/-- A method under a symbol. -/
def symbolMethod (r : Ref) (symbol : Nat) (name : String) (length : Nat) (f : Behaviour) : Build Unit := do
  define r (.symbol symbol) (.data (.object (← function name length f)) .hidden)

def getterAt (r : Ref) (k : PropKey) (name : String) (f : Behaviour) : Build Unit := do
  let g ← function ("get " ++ name) 0 f
  define r k (.accessor (.object g) .undefined false true)

def getter (r : Ref) (name : String) (f : Behaviour) : Build Unit := getterAt r (.ofString name) name f

/-- `get [Symbol.species]`, which gives the constructor it is asked of. -/
def species (r : Ref) : Build Unit :=
  getterAt r (.symbol Sym.species) "[Symbol.species]" fun i => return i.this

/-- A constructor at a fixed place, with its prototype. -/
def constructor (r proto : Ref) (name : String) (length : Nat) (f : Behaviour) : Build Unit := do
  let n ← behave f
  modifyObj r fun _ => functionObj name length (.native n true #[]) Intrinsic.functionPrototype
  constant r "prototype" (.object proto)
  hidden proto "constructor" (.object r)

/-- A constructor that has to be used with `new`. -/
def newConstructor (r proto : Ref) (name : String) (length : Nat) (f : Behaviour) : Build Unit :=
  constructor r proto name length fun i => do
    if !i.isConstruct then typeError s!"calling a builtin {name} constructor without new is forbidden"
    f i

/-- A prototype that inherits from another one. -/
def prototype (r parent : Ref) : Build Unit := setProto r (some parent)

end Build

end Playpen.Engine
