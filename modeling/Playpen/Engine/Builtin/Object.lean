import Playpen.Engine.Builtin.Basic

/-!
# Built-in functions: objects
-/

namespace Playpen.Engine

open M
open Playpen.Text (Wide)

namespace Builtin.Objects

def pair (k v : Value) : M Value := Object.newArray #[k, v]

/-- Own enumerable properties, one after the other, as a function makes them. -/
def collect (v : Value) (f : Ref → PropKey → M Value) : M Value := do
  let r ← toObject v
  let mut items := #[]
  for k in ← Object.keys r do
    if !k.isSymbol then
      match ← Object.getOwn r k with
      | some s => if s.isEnumerable then items := items.push (← f r k)
      | none => pure ()
  Object.newArray items

def keys : Behaviour := fun i => collect (i.arg 0) fun _ k => return k.value

def values : Behaviour := fun i => collect (i.arg 0) fun r k => Object.get r k

def entries : Behaviour := fun i => collect (i.arg 0) fun r k => do pair k.value (← Object.get r k)

def assign : Behaviour := fun i => do
  let target ← toObject (i.arg 0)
  for source in i.rest 1 do
    if !source.isNullish then
      let from_ ← toObject source
      for k in ← Object.keys from_ do
        match ← Object.getOwn from_ k with
        | some s => if s.isEnumerable then Object.put target k (← Object.get from_ k)
        | none => pure ()
  return .object target

def defineAll (r : Ref) (v : Value) : M Unit := do
  let from_ ← toObject v
  let mut descs := #[]
  for k in ← Object.keys from_ do
    match ← Object.getOwn from_ k with
    | some s => if s.isEnumerable then descs := descs.push (k, ← Object.descOf (← Object.get from_ k))
    | none => pure ()
  for (k, d) in descs do Object.defineOrThrow r k d

def protoOf (v : Value) : M (Option Ref) := do
  match v with
  | .object r => return some r
  | .null => return none
  | v => typeError s!"Object prototype may only be an Object or null: {← shown v}"
where
  shown (v : Value) : M String := do
    match v with
    | .text w => return "\"" ++ w.display ++ "\""
    | .symbol id => Object.keyText (.symbol id)
    | v => toStr v

def create : Behaviour := fun i => do
  let p ← protoOf (i.arg 0)
  let r ← Heap.allocKind p .ordinary
  match i.arg 1 with
  | .undefined => pure ()
  | d => defineAll r d
  return .object r

def defineProperty : Behaviour := fun i => do
  match i.arg 0 with
  | .object r =>
    let k ← toKey (i.arg 1)
    Object.defineOrThrow r k (← Object.descOf (i.arg 2))
    return .object r
  | _ => typeError "Object.defineProperty called on non-object"

def defineProperties : Behaviour := fun i => do
  match i.arg 0 with
  | .object r =>
    defineAll r (i.arg 1)
    return .object r
  | _ => typeError "Expected an object"

/-- Makes all properties unchangeable: `freeze` also their values. -/
def setIntegrity (r : Ref) (freeze : Bool) : M Bool := do
  if !(← Object.preventExtensions r) then return false
  for k in ← Object.keys r do
    if freeze then
      match ← Object.getOwn r k with
      | some (.data _ _) =>
        Object.defineOrThrow r k { Desc.empty with writable := some false, configurable := some false }
      | some _ => Object.defineOrThrow r k { Desc.empty with configurable := some false }
      | none => pure ()
    else Object.defineOrThrow r k { Desc.empty with configurable := some false }
  return true

def hasIntegrity (r : Ref) (frozen : Bool) : M Bool := do
  if ← Object.isExtensible r then return false
  for k in ← Object.keys r do
    match ← Object.getOwn r k with
    | some (.data _ a) => if a.configurable || (frozen && a.writable) then return false
    | some s => if s.isConfigurable then return false
    | none => pure ()
  return true

def integrity (freeze : Bool) (failure : String) : Behaviour := fun i => do
  match i.arg 0 with
  | .object r =>
    if !(← setIntegrity r freeze) then typeError failure
    return .object r
  | v => return v

def testIntegrity (frozen : Bool) : Behaviour := fun i => do
  match i.arg 0 with
  | .object r => return .bool (← hasIntegrity r frozen)
  | _ => return .bool true

def preventExtensions : Behaviour := fun i => do
  match i.arg 0 with
  | .object r =>
    if !(← Object.preventExtensions r) then typeError "cannot prevent extensions"
    return .object r
  | v => return v

def isExtensible : Behaviour := fun i => do
  match i.arg 0 with
  | .object r => return .bool (← Object.isExtensible r)
  | _ => return .bool false

def fromEntries : Behaviour := fun i => do
  let r ← Object.newObject
  if (i.arg 0).isNullish then typeError "cannot convert null or undefined to Object"
  Iter.forEach (i.arg 0) fun item => do
    match item with
    | .object e =>
      let k ← Object.get e (.index 0)
      let v ← Object.get e (.index 1)
      Object.create r (← toKey k) v
    | _ => typeError "cannot get key and value from primitive item of \x60iterable\x60"
  return .object r

def describe (r : Ref) (k : PropKey) : M Value := do
  match ← Object.getOwn r k with
  | some s => Object.ofDesc (.ofSlot s)
  | none => return .undefined

def getOwnPropertyDescriptor : Behaviour := fun i => do
  let r ← toObject (i.arg 0)
  describe r (← toKey (i.arg 1))

def getOwnPropertyDescriptors : Behaviour := fun i => do
  let r ← toObject (i.arg 0)
  let o ← Object.newObject
  for k in ← Object.keys r do
    let d ← describe r k
    if !d.isUndefined then Object.create o k d
  return .object o

def ownKeys (symbols : Bool) : Behaviour := fun i => do
  let r ← toObject (i.arg 0)
  Object.newArray (((← Object.keys r).filter (·.isSymbol == symbols)).map PropKey.value).toArray

def getPrototypeOf : Behaviour := fun i => do
  return Object.protoValue (← Object.getProto (← toObject (i.arg 0)))

def setPrototypeOf : Behaviour := fun i => do
  if (i.arg 0).isNullish then typeError "cannot convert 'null' or 'undefined' to object"
  let p ← match i.arg 1 with
    | .object p => pure (some p)
    | .null => pure none
    | v => typeError s!"expected an object or null, got \x60{← typeOf v}\x60"
  match i.arg 0 with
  | .object r =>
    if !(← Object.setProto r p) then typeError "can't set prototype of this object"
    return .object r
  | v => return v

def hasOwn : Behaviour := fun i => do
  let r ← toObject (i.arg 0)
  return .bool (← Object.hasOwn r (← toKey (i.arg 1)))

/-- The groups that a function sorts items into. -/
def groups (items f : Value) (key : Value → M Value) : M (Array (Value × Array Value)) := do
  if items.isNullish then typeError "cannot convert null or undefined to Object"
  if !(← Object.isCallable f) then typeError "callback must be a callable object"
  let step (s : Array (Value × Array Value) × Nat) (v : Value) : M (Array (Value × Array Value) × Nat) := do
    let k ← key (← call f .undefined #[v, .nat s.2])
    match s.1.findIdx? (fun g => g.1.sameZero k) with
    | some at_ => return (s.1.modify at_ fun g => (g.1, g.2.push v), s.2 + 1)
    | none => return (s.1.push (k, #[v]), s.2 + 1)
  return (← Iter.foldFrom (← Iter.get items) step Iter.bound (#[], 0)).1

def groupBy : Behaviour := fun i => do
  let gs ← groups (i.arg 0) (i.arg 1) fun v => return (← toKey v).value
  let r ← Heap.allocKind none .ordinary
  for (k, vs) in gs do Object.create r (← toKey k) (← Object.newArray vs)
  return .object r

def construct : Behaviour := fun i => do
  let plain := match i.newTarget with
    | .object r => r == i.self
    | _ => true
  if !plain then i.create Intrinsic.objectPrototype .ordinary
  else if (i.arg 0).isNullish then return .object (← Object.newObject)
  else return .object (← toObject (i.arg 0))

/-! ## Methods of all objects -/

def hasOwnProperty : Behaviour := fun i => do
  let k ← toKey (i.arg 0)
  return .bool (← Object.hasOwn (← toObject i.this) k)

def isPrototypeOf : Behaviour := fun i => do
  match i.arg 0 with
  | .object v =>
    let r ← toObject i.this
    return .bool (← ordinaryHasInstance.walk 100000 r v)
  | _ => return .bool false

def propertyIsEnumerable : Behaviour := fun i => do
  let k ← toKey (i.arg 0)
  match ← Object.getOwn (← toObject i.this) k with
  | some s => return .bool s.isEnumerable
  | none => return .bool false

/-- The word that an object's kind is shown as. -/
def kindName (r : Ref) : M String := do
  if ← Object.isArray 1000 (.object r) then return "Array"
  else if ← Object.isCallable (.object r) then return "Function"
  else match ← Heap.kindOf r with
    | .error => return "Error"
    | .wrapper (.bool _) => return "Boolean"
    | .wrapper (.number _) => return "Number"
    | .wrapper (.text _) => return "String"
    | .date _ => return "Date"
    | .regex _ => return "RegExp"
    | .arguments _ _ => return "Arguments"
    | _ => return "Object"

def toString : Behaviour := fun i => do
  match i.this with
  | .undefined => return .str "[object Undefined]"
  | .null => return .str "[object Null]"
  | v =>
    let r ← toObject v
    let name ← kindName r
    match ← Object.get r (.symbol Sym.toStringTag) with
    | .text w => return .text (.plain "[object " ++ w ++ .plain "]")
    | _ => return .str s!"[object {name}]"

def toLocaleString : Behaviour := fun i => Object.invoke i.this (.ofString "toString") #[]

def valueOf : Behaviour := fun i => return .object (← toObject i.this)

def getProto : Behaviour := fun i => do return Object.protoValue (← Object.getProto (← toObject i.this))

def setProto : Behaviour := fun i => do
  if i.this.isNullish then typeError "cannot convert 'null' or 'undefined' to object"
  let p ← match i.arg 0 with
    | .object p => pure (some (some p))
    | .null => pure (some none)
    | _ => pure none
  match i.this, p with
  | .object r, some p =>
    if !(← Object.setProto r p) then typeError "__proto__ called on null or undefined"
    return .undefined
  | _, _ => return .undefined

def defineAccessor (setter : Bool) : Behaviour := fun i => do
  let r ← toObject i.this
  if !(← Object.isCallable (i.arg 1)) then
    typeError (if setter then "Object.prototype.__defineSetter__: Expecting function"
      else "Object.prototype.__defineGetter__: Expecting function")
  let d : Desc := { Desc.empty with enumerable := some true, configurable := some true }
  let d := if setter then { d with set := some (i.arg 1) } else { d with get := some (i.arg 1) }
  Object.defineOrThrow r (← toKey (i.arg 0)) d
  return .undefined

def lookupAccessor (setter : Bool) : Behaviour := fun i => do
  let r ← toObject i.this
  let k ← toKey (i.arg 0)
  let rec go : Nat → Ref → M Value
    | 0, _ => return .undefined
    | n + 1, r => do
      match ← Object.getOwn r k with
      | some (.accessor g s _ _) => return if setter then s else g
      | some _ => return .undefined
      | none =>
        match ← Object.getProto r with
        | some p => go n p
        | none => return .undefined
  go 100000 r

def build : Build Unit := do
  let c := Intrinsic.object
  let p := Intrinsic.objectPrototype
  Build.constructor c p "Object" 1 construct
  Build.method c "assign" 2 assign
  Build.method c "create" 2 create
  Build.method c "setPrototypeOf" 2 setPrototypeOf
  Build.method c "getPrototypeOf" 1 getPrototypeOf
  Build.method c "defineProperty" 3 defineProperty
  Build.method c "defineProperties" 2 defineProperties
  Build.method c "is" 2 fun i => return .bool ((i.arg 0).identical (i.arg 1))
  Build.method c "keys" 1 keys
  Build.method c "values" 1 values
  Build.method c "entries" 1 entries
  Build.method c "seal" 1 (integrity false "cannot seal object")
  Build.method c "isSealed" 1 (testIntegrity false)
  Build.method c "freeze" 1 (integrity true "cannot freeze object")
  Build.method c "isFrozen" 1 (testIntegrity true)
  Build.method c "preventExtensions" 1 preventExtensions
  Build.method c "isExtensible" 1 isExtensible
  Build.method c "getOwnPropertyDescriptor" 2 getOwnPropertyDescriptor
  Build.method c "getOwnPropertyDescriptors" 1 getOwnPropertyDescriptors
  Build.method c "getOwnPropertyNames" 1 (ownKeys false)
  Build.method c "getOwnPropertySymbols" 1 (ownKeys true)
  Build.method c "hasOwn" 2 hasOwn
  Build.method c "fromEntries" 1 fromEntries
  Build.method c "groupBy" 2 groupBy
  let get ← Build.function "get __proto__" 0 getProto
  let set ← Build.function "set __proto__" 1 setProto
  Build.define p (.ofString "__proto__") (.accessor (.object get) (.object set) false true)
  Build.method p "hasOwnProperty" 1 hasOwnProperty
  Build.method p "propertyIsEnumerable" 1 propertyIsEnumerable
  Build.method p "toString" 0 toString
  Build.method p "toLocaleString" 0 toLocaleString
  Build.method p "valueOf" 0 valueOf
  Build.method p "isPrototypeOf" 1 isPrototypeOf
  Build.method p "__defineGetter__" 2 (defineAccessor false)
  Build.method p "__defineSetter__" 2 (defineAccessor true)
  Build.method p "__lookupGetter__" 1 (lookupAccessor false)
  Build.method p "__lookupSetter__" 1 (lookupAccessor true)

end Builtin.Objects

end Playpen.Engine
