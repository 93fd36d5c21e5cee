import Playpen.Engine.Convert

/-!
# Looking for names

Names of the global object, and names that can only be looked for while the script runs: those that
`with` and `eval` may bring.  Such a name is looked for from an environment outwards.
-/

namespace Playpen.Engine

open M

namespace Lookup

/-- Where a name has been found. -/
inductive Found where
  | nowhere
  /-- The name of an environment. -/
  | slot (env i : Nat) (mutability : Mutability)
  /-- A property of the global object. -/
  | global
  /-- A property of the object of a `with`. -/
  | object (r : Ref)

/-- A name that leads nowhere yet; a constructor keeps its `this` under a name that no script can use. -/
def undeclared (name : String) : M α :=
  raise .reference <|
    if name == "%this" then
      "Must call super constructor in derived class before accessing 'this' or returning from derived constructor"
    else s!"{name} is not defined"

def immutable (name : String) : M α := typeError s!"cannot mutate an immutable binding '{name}'"

/-- A name as a key. -/
def key (name : String) : PropKey := .text (.plain name)

/-- The environment a number of steps further out. -/
def outward (envs : Array Env) : Nat → Nat → Nat
  | 0, env => env
  | n + 1, env => outward envs n (envs.getD env default).parent

/-! ## The global object -/

/-- The value of a global variable, if there is one. -/
def global? (name : String) : M (Option Value) := do
  let k := key name
  match ← look fun m => (m.heap.getD Intrinsic.global default).props.get? k with
  | some (.data v _) => return some v
  | _ => if ← Object.has Intrinsic.global k then return some (← Object.get Intrinsic.global k) else return none

def getGlobal (name : String) : M Value := do
  match ← global? name with
  | some v => return v
  | none => undeclared name

def setGlobal (name : String) (strict : Bool) (v : Value) : M Unit := do
  let k := key name
  if strict && !(← Object.has Intrinsic.global k) then
    raise .reference s!"cannot assign to uninitialized global property \x60{name}\x60"
  if !(← Object.setFor Intrinsic.global k v (.object Intrinsic.global)) && strict then
    typeError s!"cannot set non-writable property: {name}"

/-! ## Environments -/

/-- Whether an object of a `with` gives a name. -/
def offers (o : Ref) (k : PropKey) : M Bool := do
  if !(← Object.has o k) then return false
  match ← Object.get o (.symbol Sym.unscopables) with
  | .object hidden => return !(← Object.get hidden k).truthy
  | _ => return true

/-- Looks for a name from an environment outwards; an environment lies further out than those that
were made later. -/
def find (name : String) : Nat → Nat → M Found
  | 0, _ => return .nowhere
  | n + 1, env => do
    let e ← look fun m => m.envs.getD env default
    match e.kind with
    | .global => if ← Object.has Intrinsic.global (key name) then return .global else return .nowhere
    | .withObject o => if ← offers o (key name) then return .object o else find name n e.parent
    | _ =>
      match e.bindings.findIdx? (·.name == name) with
      | some i => return .slot env i (e.bindings.getD i default).mutability
      | none => find name n e.parent

def findFrom (env : Nat) (name : String) : M Found := find name (env + 1) env

/-- The value of a name with the object it is a property of, if it has been found in a `with`. -/
def get? (env : Nat) (name : String) : M (Option (Value × Value)) := do
  match ← findFrom env name with
  | .nowhere => return none
  | .global => return some (← Object.get Intrinsic.global (key name), .undefined)
  | .object o => return some (← Object.get o (key name), .object o)
  | .slot env i _ =>
    match ← Object.envSlot env i with
    | .hole => undeclared name
    | v => return some (v, .undefined)

/-- The value of a name, and what a call of it has as `this`. -/
def get (env : Nat) (name : String) : M (Value × Value) := do
  match ← get? env name with
  | some found => return found
  | none => undeclared name

def uninitialized (name : String) : M α :=
  raise .reference s!"cannot assign to uninitialized binding \x60{name}\x60"

def set (env : Nat) (name : String) (strict : Bool) (v : Value) : M Unit := do
  match ← findFrom env name with
  | .nowhere | .global => setGlobal name strict v
  | .object o =>
    if !(← Object.setFor o (key name) v (.object o)) && strict then
      typeError s!"cannot set non-writable property: {name}"
  | .slot env i mutability =>
    if (← Object.envSlot env i).isHole then uninitialized name
    match mutability with
    | .mutable => Object.setEnvSlot env i v
    | .constant => immutable name
    | .silent => if strict then immutable name

/-- Deletes a name; only properties of objects can be deleted. -/
def delete (env : Nat) (name : String) : M Bool := do
  match ← findFrom env name with
  | .nowhere => return true
  | .global => Object.delete Intrinsic.global (key name)
  | .object o => Object.delete o (key name)
  | .slot _ _ _ => return false

/-! ## Declarations of `eval` -/

/-- The environment that takes the variables of `eval`. -/
def varScope : Nat → Nat → M Nat
  | 0, env => return env
  | n + 1, env => do
    let e ← look fun m => m.envs.getD env default
    match e.kind with
    | .global | .varScope => return env
    | _ => varScope n e.parent

/-- Declares variables that a text given to `eval` brings. -/
def declare (env : Nat) (names : Array (String × Bool)) : M Unit := do
  let scope ← varScope (env + 1) env
  let e ← look fun m => m.envs.getD scope default
  names.forM fun (name, _) => do
    match e.kind with
    | .varScope =>
      let known ← look fun m => (m.envs.getD scope default).bindings.any (·.name == name)
      if !known then
        update fun m => { m with envs := m.envs.modify scope fun e =>
          { e with bindings := e.bindings.push ⟨name, .mutable⟩, slots := e.slots.push .undefined } }
    | _ =>
      if !(← Object.has Intrinsic.global (key name)) then
        Object.create Intrinsic.global (key name) .undefined

end Lookup

end Playpen.Engine
