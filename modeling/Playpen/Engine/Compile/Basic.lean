import Playpen.Engine.Code
import Playpen.Script.Names

/-!
# Compiling: scopes and small steps

A name that inner functions mention, or that `eval` may look for, is kept in an environment; every
other name is a local of its function.  A jump aims at a label, and labels become addresses when a
function is finished.
-/

namespace Playpen.Engine

open Playpen.Script (Place)

/-- Where a variable is kept. -/
inductive VarSlot where
  | local (i : Nat)
  | env (i : Nat)
  | import (module i : Nat)
  deriving Inhabited

structure Var where
  name : String
  slot : VarSlot
  mutability : Mutability
  /-- Whether it can be looked at before it has a value. -/
  checked : Bool
  deriving Inhabited

structure Scope where
  vars : List Var
  /-- Whether there is an environment for it. -/
  hasEnv : Bool
  /-- Whether names may come to it while the program runs. -/
  dynamic : Bool
  /-- Whether it is that of a function, and not of a block. -/
  ofFunction : Bool
  deriving Inhabited

/-- Where a name leads. -/
inductive Location where
  | local (i : Nat) (v : Var)
  | env (depth i : Nat) (v : Var)
  | import (module i : Nat)
  | global
  | dynamic
  deriving Inhabited

/-- What a jump out of a statement passes, or ends at. -/
inductive Control where
  /-- A statement that `break` ends, and for a loop, where `continue` goes on. -/
  | breakable (labels : List String) (plain : Bool) (onBreak : Nat) (onContinue : Option Nat)
  | env
  | handler
  | iterator (slot : Nat) (async : Bool)
  /-- A statement with a last part, which gets a value and a tag in locals. -/
  | finalizer (id label slot : Nat)
  deriving Inhabited

/-- Where a jump out of statements ends. -/
inductive Target where
  | label (t : Nat)
  | return
  deriving Inhabited

structure CompileState where
  instrs : Array Instr
  places : Array Place
  place : Place
  labels : Array Nat
  scopes : List Scope
  locals : Nat
  funcs : Array Code
  control : List Control
  /-- Jumps that go on behind last parts: the part, the tag, where they end, and how many statements
  around the part they pass. -/
  pending : List (Nat × Nat × Target × Nat)
  counter : Nat
  /-- The local that keeps a value to return. -/
  returnSlot : Option Nat
  /-- The local that keeps the value of the last statement. -/
  completion : Option Nat
  /-- Where optional chains end. -/
  chains : List Nat
  strict : Bool
  async : Bool
  generator : Bool
  derived : Bool
  /-- Whether `this` is a variable, since a constructor gets it late. -/
  lateThis : Bool
  /-- Names that inner functions mention. -/
  captured : List String
  /-- Whether all names are kept in environments. -/
  allCaptured : Bool
  origin : Origin
  module : Nat
  deriving Inhabited

abbrev Compile := StateM CompileState

namespace Compile

def emit (i : Instr) : Compile Unit := modify fun s =>
  { s with instrs := s.instrs.push i, places := s.places.push s.place }

def push (v : Value) : Compile Unit := emit (.push v)

/-- Errors of what is emitted meanwhile get another place. -/
def atPlace (p : Place) (x : Compile α) : Compile α := do
  let old := (← get).place
  modify fun s => { s with place := p }
  let a ← x
  modify fun s => { s with place := old }
  return a

def newLabel : Compile Nat := do
  let s ← get
  set { s with labels := s.labels.push 0 }
  return s.labels.size

/-- Puts a label here. -/
def mark (l : Nat) : Compile Unit := modify fun s => { s with labels := s.labels.setIfInBounds l s.instrs.size }

def newLocal : Compile Nat := do
  let s ← get
  set { s with locals := s.locals + 1 }
  return s.locals

/-- Two locals, one behind the other. -/
def newPair : Compile Nat := do
  let s ← get
  set { s with locals := s.locals + 2 }
  return s.locals

def fresh : Compile Nat := do
  let s ← get
  set { s with counter := s.counter + 1 }
  return s.counter

/-! ## Names -/

def locate (name : String) (scopes : List Scope) (depth : Nat) : Location :=
  match scopes with
  | [] => .global
  | s :: rest =>
    match s.vars.find? (·.name == name) with
    | some v =>
      match v.slot with
      | .local i => .local i v
      | .env i => .env depth i v
      | .import m i => .import m i
    | none => if s.dynamic then .dynamic else locate name rest (if s.hasEnv then depth + 1 else depth)

def location (name : String) : Compile Location := return locate name (← get).scopes 0

/-- Puts the value of a variable on the stack. -/
def getVar (name : String) : Compile Unit := do
  match ← location name with
  | .local i v => emit (if v.checked then .getLocalChecked i else .getLocal i)
  | .env d i v => emit (if v.checked then .getEnvChecked d i name else .getEnv d i)
  | .import m i => emit (.getImport m i name)
  | .global => emit (.getGlobal name)
  | .dynamic => emit (.getName name)

/-- Assigns the value on the stack to a variable. -/
def setVar (name : String) : Compile Unit := do
  let strict := (← get).strict
  let guarded (v : Var) (set : Instr) : Compile Unit := do
    match v.mutability with
    | .mutable => emit set
    | .constant => emit (.immutable name)
    | .silent => if strict then emit (.immutable name) else emit .pop
  match ← location name with
  | .local i v => guarded v (if v.checked then .setLocalChecked i else .setLocal i)
  | .env d i v => guarded v (if v.checked then .setEnvChecked d i name else .setEnv d i)
  | .import _ _ => emit (.immutable name)
  | .global => emit (.setGlobal name strict)
  | .dynamic => emit (.setName name strict)

/-- Gives a declared variable its first value. -/
def initVar (name : String) : Compile Unit := do
  match ← location name with
  | .local i _ => emit (.setLocal i)
  | .env d i _ => emit (.setEnv d i)
  | .import _ _ => emit .pop
  | .global => emit (.setGlobal name false)
  | .dynamic => emit (.setName name false)

/-! ## Scopes -/

/-- What a name of a new scope is like. -/
structure Declared where
  name : String
  mutability : Mutability
  checked : Bool
  /-- Whether it has to be in the environment. -/
  captured : Bool

/-- Whether inner functions or `eval` may look for a name. -/
def isCaptured (name : String) : Compile Bool := do
  let s ← get
  return s.allCaptured || s.captured.contains name

/-- Enters a scope; gives whether there is an environment for it. -/
def enterScope (names : List Declared) (dynamic isVarScope ofFunction : Bool) : Compile Bool := do
  let (vars, bindings) ← names.foldlM (fun (acc : List Var × Array Binding) d => do
    if d.captured || (← isCaptured d.name) then
      return (⟨d.name, .env acc.2.size, d.mutability, d.checked⟩ :: acc.1, acc.2.push ⟨d.name, d.mutability⟩)
    else
      let i ← newLocal
      return (⟨d.name, .local i, d.mutability, d.checked⟩ :: acc.1, acc.2)) ([], #[])
  let hasEnv := !bindings.isEmpty || dynamic
  if hasEnv then emit (.pushEnv bindings isVarScope)
  modify fun s => { s with scopes := ⟨vars, hasEnv, dynamic, ofFunction⟩ :: s.scopes }
  -- locals of a block are empty again whenever it is entered
  vars.forM fun v => do
    match v.slot with
    | .local i =>
      if v.checked then
        push .hole
        emit (.setLocal i)
    | _ => pure ()
  return hasEnv

def leaveScope : Compile Unit := modify fun s => { s with scopes := s.scopes.tail }

/-- Emits a part inside a scope of a block. -/
def inScope (names : List Declared) (body : Compile α) : Compile α := do
  if names.isEmpty then body
  else
    let hasEnv ← enterScope names false false false
    if hasEnv then modify fun s => { s with control := .env :: s.control }
    let a ← body
    if hasEnv then
      modify fun s => { s with control := s.control.tail }
      emit .popEnv
    leaveScope
    return a

def withControl (c : Control) (body : Compile α) : Compile α := do
  modify fun s => { s with control := c :: s.control }
  let a ← body
  modify fun s => { s with control := s.control.tail }
  return a

/-! ## Leaving statements -/

def returnSlot : Compile Nat := do
  match (← get).returnSlot with
  | some i => return i
  | none =>
    let i ← newLocal
    modify fun s => { s with returnSlot := some i }
    return i

/-- The function ends with the value in the slot for it. -/
def finishReturn : Compile Unit := do
  emit (.getLocal (← returnSlot))
  let s ← get
  if s.derived then
    let l ← newLabel
    emit (.checkDerived l)
    emit .pop
    getVar "%this"
    mark l
  emit .return

def isFinalizer : Control → Bool
  | .finalizer _ _ _ => true
  | _ => false

/-- Emits what has to be done on the way out through `passed`, and the jump to where it ends.
Environments need not be left when the function ends anyway. -/
def unwind (passed : List Control) (target : Target) : Compile Unit := do
  match passed with
  | [] =>
    match target with
    | .label t => emit (.jump t)
    | .return => finishReturn
  | c :: rest =>
    match c with
    | .breakable _ _ _ _ => unwind rest target
    | .env =>
      let ends := match target with
        | .return => !rest.any isFinalizer
        | .label _ => false
      if !ends then emit .popEnv
      unwind rest target
    | .handler =>
      emit .popHandler
      unwind rest target
    | .iterator slot async =>
      emit .popHandler
      if async then
        let l ← newLabel
        let done ← newLabel
        emit (.iterCloseAsync slot)
        emit (.jumpIfFalse l)
        emit .await
        emit (.resume 0)
        emit .iterCheckClosed
        emit (.jump done)
        mark l
        emit .pop
        mark done
      else emit (.iterClose slot)
      unwind rest target
    | .finalizer id label slot =>
      emit .popHandler
      let tag := (← fresh) + 2
      push (.nat tag)
      emit (.setLocal (slot + 1))
      emit (.jump label)
      modify fun s => { s with pending := (id, tag, target, rest.length) :: s.pending }

/-- The statements around a `break`, up to the one it ends. -/
def breakPath (label : Option String) : List Control → Option (List Control × Nat)
  | [] => none
  | c :: rest =>
    let goOn := (breakPath label rest).map fun (p, t) => (c :: p, t)
    match c with
    | .breakable labels plain t _ =>
      match label with
      | none => if plain then some ([], t) else goOn
      | some l => if labels.contains l then some ([], t) else goOn
    | _ => goOn

def continuePath (label : Option String) : List Control → Option (List Control × Nat)
  | [] => none
  | c :: rest =>
    let goOn := (continuePath label rest).map fun (p, t) => (c :: p, t)
    match c with
    | .breakable labels _ _ (some t) =>
      match label with
      | none => some ([], t)
      | some l => if labels.contains l then some ([], t) else goOn
    | _ => goOn

/-- Returns the value on the stack. -/
def returnValue : Compile Unit := do
  let s ← get
  if s.async && s.generator then
    emit .await
    emit (.resume 0)
  emit (.setLocal (← returnSlot))
  unwind (← get).control .return

/-- Behind `yield`: goes on with what has been sent, throws it, or returns it. -/
def afterYield : Compile Unit := do
  let back ← newLabel
  let goOn ← newLabel
  emit (.resume back)
  emit (.jump goOn)
  mark back
  returnValue
  mark goOn

def awaitValue : Compile Unit := do
  emit .await
  emit (.resume 0)

/-- The finished instructions. -/
def finished (s : CompileState) : Array Instr := s.instrs.map (Instr.mapTarget fun l => s.labels.getD l 0)

end Compile

end Playpen.Engine
