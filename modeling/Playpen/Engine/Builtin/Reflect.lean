import Playpen.Engine.Builtin.Object

/-!
# Built-in functions: proxies and reflection
-/

namespace Playpen.Engine

open M

namespace Builtin.Reflection

def makeProxy (target handler : Value) : M Value := do
  if !target.isObject then typeError "Proxy constructor called with non-object target"
  if !handler.isObject then typeError "Proxy constructor called with non-object handler"
  return .object (← Heap.allocKind none
    (.proxy target handler (← Object.isCallable target) (← Object.isConstructor target)))

def construct : Behaviour := fun i => do
  if !i.isConstruct then typeError "Proxy constructor called on undefined new target"
  makeProxy (i.arg 0) (i.arg 1)

def revocable : Behaviour := fun i => do
  let p ← makeProxy (i.arg 0) (i.arg 1)
  let f ← Promise.newNative .proxyRevoke 0 #[p]
  let o ← Object.newObject
  Heap.setData o (.ofString "proxy") p
  Heap.setData o (.ofString "revoke") f
  return .object o

/-- Takes a proxy's target and handler away. -/
def revoke : Behaviour := fun i => do
  let cs ← i.captures
  match cs.getD 0 .undefined with
  | .object r =>
    match ← Heap.kindOf r with
    | .proxy _ _ callable isConstructor => Heap.setKind r (.proxy .undefined .undefined callable isConstructor)
    | _ => pure ()
  | _ => pure ()
  return .undefined

def target (i : Invocation) : M Ref := do
  match i.arg 0 with
  | .object r => return r
  | _ => typeError "target must be an object"

def receiver (i : Invocation) (n : Nat) (r : Ref) : Value := if n < i.args.size then i.arg n else .object r

def build : Build Unit := do
  let proxy := Intrinsic.proxy
  let n ← Build.behave construct
  Build.modifyObj proxy fun _ => Build.functionObj "Proxy" 2 (.native n true #[]) Intrinsic.functionPrototype
  Build.method proxy "revocable" 2 revocable
  let o := Intrinsic.reflect
  Build.setProto o (some Intrinsic.objectPrototype)
  Build.method o "apply" 3 fun i => do
    if !(← Object.isCallable (i.arg 0)) then typeError "target must be a function"
    call (i.arg 0) (i.arg 1) (← Object.listOf (i.arg 2))
  Build.method o "construct" 2 fun i => do
    if !(← Object.isConstructor (i.arg 0)) then typeError "target must be a constructor"
    let newTarget := if i.args.size > 2 then i.arg 2 else i.arg 0
    if !(← Object.isConstructor newTarget) then typeError "newTarget must be a constructor"
    M.construct (i.arg 0) (← Object.listOf (i.arg 1)) newTarget
  Build.method o "defineProperty" 3 fun i => do
    let r ← target i
    let k ← toKey (i.arg 1)
    return .bool (← Object.define r k (← Object.descOf (i.arg 2)))
  Build.method o "deleteProperty" 2 fun i => do
    let r ← target i
    return .bool (← Object.delete r (← toKey (i.arg 1)))
  Build.method o "get" 2 fun i => do
    let r ← target i
    Object.getFor r (← toKey (i.arg 1)) (receiver i 2 r)
  Build.method o "getOwnPropertyDescriptor" 2 fun i => do
    let r ← target i
    Objects.describe r (← toKey (i.arg 1))
  Build.method o "getPrototypeOf" 1 fun i => do
    return Object.protoValue (← Object.getProto (← target i))
  Build.method o "has" 2 fun i => do
    let r ← target i
    return .bool (← Object.has r (← toKey (i.arg 1)))
  Build.method o "isExtensible" 1 fun i => do return .bool (← Object.isExtensible (← target i))
  Build.method o "ownKeys" 1 fun i => do
    Object.newArray ((← Object.keys (← target i)).map PropKey.value).toArray
  Build.method o "preventExtensions" 1 fun i => do return .bool (← Object.preventExtensions (← target i))
  Build.method o "set" 3 fun i => do
    let r ← target i
    return .bool (← Object.setFor r (← toKey (i.arg 1)) (i.arg 2) (receiver i 3 r))
  Build.method o "setPrototypeOf" 2 fun i => do
    let r ← target i
    match i.arg 1 with
    | .object p => return .bool (← Object.setProto r (some p))
    | .null => return .bool (← Object.setProto r none)
    | _ => typeError "proto must be an object or null"
  Build.tag o "Reflect"

end Builtin.Reflection

end Playpen.Engine
