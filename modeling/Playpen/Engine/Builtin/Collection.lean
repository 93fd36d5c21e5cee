import Playpen.Engine.Builtin.Object

/-!
# Built-in functions: maps, sets and weak references

Nothing is ever taken out of the heap, so that weak collections keep what they are given.
-/

namespace Playpen.Engine

open M
open Playpen.Text (Wide)

namespace Builtin.Collections

/-- A key as a collection keeps it: there is one zero. -/
def keyOf : Value → Value
  | .number x => if x == 0 then .number 0 else .number x
  | v => v

/-- The kinds of collections. -/
inductive Family where
  | map | set | weakMap | weakSet
  deriving DecidableEq

def Family.name : Family → String
  | map => "Map"
  | set => "Set"
  | weakMap => "WeakMap"
  | weakSet => "WeakSet"

def Family.kind (e : Entries) : Family → Kind
  | map => .map e
  | set => .set e
  | weakMap => .weakMap e
  | weakSet => .weakSet e

def entriesOf? (s : Family) (k : Kind) : Option Entries :=
  match s, k with
  | .map, .map e => some e
  | .set, .set e => some e
  | .weakMap, .weakMap e => some e
  | .weakSet, .weakSet e => some e
  | _, _ => none

/-- The collection that a method is called on. -/
def this (s : Family) (i : Invocation) : M (Ref × Entries) := do
  match i.this with
  | .object r =>
    match entriesOf? s (← Heap.kindOf r) with
    | some e => return (r, e)
    | none => typeError s!"'this' is not a {s.name}"
  | _ => typeError s!"'this' is not a {s.name}"

/-- A collection's kind with its entries changed. -/
def changed (s : Family) (f : Entries → Entries) (k : Kind) : Kind :=
  match s, k with
  | .map, .map e => .map (f e)
  | .set, .set e => .set (f e)
  | .weakMap, .weakMap e => .weakMap (f e)
  | .weakSet, .weakSet e => .weakSet (f e)
  | _, k => k

/-- Changes the entries of a collection. -/
def change (s : Family) (r : Ref) (f : Entries → Entries) : M Unit := Heap.modifyObj r fun o =>
  match o with
  | ⟨proto, extensible, props, privates, k⟩ => ⟨proto, extensible, props, privates, changed s f k⟩

/-- Whether a weak collection can hold a value. -/
def canBeWeak : Value → M Bool
  | .object _ => return true
  | .symbol id => return !(← look fun m => m.registry.entries.any (·.2 == id))
  | _ => return false

def requireWeak (v : Value) (failure : String) : M Unit := do
  if !(← canBeWeak v) then typeError failure

/-- Fills a new collection from the items of a value, by its own method. -/
def fillFrom (o : Value) (items : Value) (method : String) (pairs : Bool) : M Unit := do
  match items with
  | .undefined | .null => pure ()
  | items =>
    let f ← Object.getV o (.ofString method)
    if !(← Object.isCallable f) then typeError s!"'{method}' is not a function"
    Iter.forEach items fun item => do
      if pairs then
        match item with
        | .object e => discard (call f o #[← Object.get e (.index 0), ← Object.get e (.index 1)])
        | _ => typeError "cannot get key and value from primitive item of \x60iterable\x60"
      else discard (call f o #[item])

def construct (s : Family) (proto : Ref) (method : String) (pairs : Bool) : Behaviour := fun i => do
  let o ← i.create proto (s.kind .empty)
  fillFrom o (i.arg 0) method pairs
  return o

def get (s : Family) : Behaviour := fun i => do
  let (_, e) ← this s i
  return (e.get? (keyOf (i.arg 0))).getD .undefined

def has (s : Family) : Behaviour := fun i => do
  let (_, e) ← this s i
  return .bool (e.contains (keyOf (i.arg 0)))

def delete (s : Family) : Behaviour := fun i => do
  let (r, e) ← this s i
  let k := keyOf (i.arg 0)
  if e.contains k then
    change s r (·.erase k)
    return .bool true
  else return .bool false

def requireKind (s : Family) (i : Invocation) : M Ref := return (← this s i).1

def clear (s : Family) : Behaviour := fun i => do
  change s (← requireKind s i) (·.clear)
  return .undefined

def size (s : Family) : Behaviour := fun i => do
  let (_, e) ← this s i
  return .nat e.size

/-- Goes through the entries, also those that are added meanwhile. -/
def visit (s : Family) (r : Ref) (f : Value → Value → M Unit) : Nat → Nat → M Unit
  | 0, _ => pure ()
  | n + 1, k => do
    let item ← look fun m =>
      match entriesOf? s (m.heap.getD r default).kind with
      | some e => e.items[k]?
      | none => none
    match item with
    | none => pure ()
    | some none => visit s r f n (k + 1)
    | some (some (a, b)) =>
      f a b
      visit s r f n (k + 1)

def forEach (s : Family) : Behaviour := fun i => do
  let r ← requireKind s i
  let f := i.arg 0
  if !(← Object.isCallable f) then
    typeError s!"'callbackfn' of {s.name}.prototype.forEach is not a function"
  visit s r (fun k v => discard (call f (i.arg 1) #[v, k, .object r])) Iter.bound 0
  return .undefined

def mapIterator (kind : IterationKind) : Behaviour := fun i => do
  let r ← requireKind .map i
  return .object (← Heap.allocKind (some Intrinsic.mapIteratorPrototype) (.mapIterator (.object r) 0 kind))

def setIterator (kind : IterationKind) : Behaviour := fun i => do
  let r ← requireKind .set i
  return .object (← Heap.allocKind (some Intrinsic.setIteratorPrototype) (.setIterator (.object r) 0 kind))

def groupBy : Behaviour := fun i => do
  let gs ← Objects.groups (i.arg 0) (i.arg 1) fun v => return keyOf v
  let mut e := Entries.empty
  for (k, vs) in gs do e := e.insert k (← Object.newArray vs)
  return .object (← Heap.allocKind (some Intrinsic.mapPrototype) (.map e))

def buildMap : Build Unit := do
  let c := Intrinsic.map
  let p := Intrinsic.mapPrototype
  Build.newConstructor c p "Map" 0 (construct .map p "set" true)
  Build.species c
  Build.method c "groupBy" 2 groupBy
  let entries ← Build.function "entries" 0 (mapIterator .entries)
  Build.hidden p "entries" (.object entries)
  Build.method p "clear" 0 (clear .map)
  Build.method p "delete" 1 (delete .map)
  Build.method p "forEach" 1 (forEach .map)
  Build.method p "get" 1 (get .map)
  Build.method p "has" 1 (has .map)
  Build.method p "keys" 0 (mapIterator .keys)
  Build.method p "set" 2 fun i => do
    let r ← requireKind .map i
    change .map r (·.insert (keyOf (i.arg 0)) (i.arg 1))
    return i.this
  Build.method p "values" 0 (mapIterator .values)
  Build.tag p "Map"
  Build.define p (.symbol Sym.iterator) (.data (.object entries) .hidden)
  Build.getter p "size" (size .map)

/-! ## Sets -/

/-- Another set-like value: how many items it has, and its methods. -/
structure Other where
  value : Value
  size : Float
  has : Value
  keys : Value

def otherOf (v : Value) : M Other := do
  match v with
  | .object r =>
    let size ← toNumber (← Object.getNamed r "size")
    if size.isNaN then typeError "'size' must be a number"
    let n := Num.trunc size
    if n < 0 then rangeError "'size' must be a non-negative number"
    let has ← Object.getNamed r "has"
    if !(← Object.isCallable has) then typeError "'has' is not callable"
    let keys ← Object.getNamed r "keys"
    if !(← Object.isCallable keys) then typeError "'keys' is not callable"
    return ⟨v, n, has, keys⟩
  | _ => typeError "other must be an object"

def Other.contains (o : Other) (v : Value) : M Bool := return (← call o.has o.value #[v]).truthy

def Other.iterator (o : Other) : M Iter := do Iter.ofValue (← call o.keys o.value #[])

def Other.items (o : Other) : M (Array Value) := do
  Iter.foldFrom (← o.iterator) (fun acc v => return acc.push (keyOf v)) Iter.bound #[]

def itemsOf (e : Entries) : Array Value := e.items.filterMap fun i => i.map (·.1)

def newSet (items : Array Value) : M Value := do
  let e := items.foldl (fun (e : Entries) v => if e.contains v then e else e.insert v v) Entries.empty
  return .object (← Heap.allocKind (some Intrinsic.setPrototype) (.set e))

def union : Behaviour := fun i => do
  let (_, e) ← this .set i
  newSet (itemsOf e ++ (← (← otherOf (i.arg 0)).items))

def intersection : Behaviour := fun i => do
  let (_, e) ← this .set i
  let o ← otherOf (i.arg 0)
  if e.size.toFloat ≤ o.size then newSet (← (itemsOf e).filterM o.contains)
  else newSet ((← o.items).filter e.contains)

def difference : Behaviour := fun i => do
  let (_, e) ← this .set i
  let o ← otherOf (i.arg 0)
  if e.size.toFloat ≤ o.size then newSet (← (itemsOf e).filterM fun v => return !(← o.contains v))
  else
    let others ← o.items
    newSet ((itemsOf e).filter fun v => !others.any (·.sameZero v))

def symmetricDifference : Behaviour := fun i => do
  let (_, e) ← this .set i
  let others ← (← otherOf (i.arg 0)).items
  newSet ((itemsOf e).filter (fun v => !others.any (·.sameZero v)) ++ others.filter fun v => !e.contains v)

def isSubsetOf : Behaviour := fun i => do
  let (_, e) ← this .set i
  let o ← otherOf (i.arg 0)
  if e.size.toFloat > o.size then return .bool false
  return .bool (← (itemsOf e).allM o.contains)

def isSupersetOf : Behaviour := fun i => do
  let (_, e) ← this .set i
  let o ← otherOf (i.arg 0)
  if e.size.toFloat < o.size then return .bool false
  return .bool ((← o.items).all e.contains)

def isDisjointFrom : Behaviour := fun i => do
  let (_, e) ← this .set i
  let o ← otherOf (i.arg 0)
  if e.size.toFloat ≤ o.size then return .bool (!(← (itemsOf e).anyM o.contains))
  return .bool (!(← o.items).any e.contains)

def buildSet : Build Unit := do
  let c := Intrinsic.set
  let p := Intrinsic.setPrototype
  Build.newConstructor c p "Set" 0 (construct .set p "add" false)
  Build.species c
  Build.method p "add" 1 fun i => do
    let (r, e) ← this .set i
    let k := keyOf (i.arg 0)
    if !e.contains k then change .set r (·.insert k k)
    return i.this
  Build.method p "clear" 0 (clear .set)
  Build.method p "delete" 1 (delete .set)
  Build.method p "entries" 0 (setIterator .entries)
  Build.method p "forEach" 1 (forEach .set)
  Build.method p "has" 1 (has .set)
  Build.method p "difference" 1 difference
  Build.method p "intersection" 1 intersection
  Build.method p "isDisjointFrom" 1 isDisjointFrom
  Build.method p "isSubsetOf" 1 isSubsetOf
  Build.method p "isSupersetOf" 1 isSupersetOf
  Build.method p "symmetricDifference" 1 symmetricDifference
  Build.method p "union" 1 union
  let values ← Build.function "values" 0 (setIterator .values)
  Build.hidden p "values" (.object values)
  Build.hidden p "keys" (.object values)
  Build.define p (.symbol Sym.iterator) (.data (.object values) .hidden)
  Build.getter p "size" (size .set)
  Build.tag p "Set"

/-! ## Weak collections -/

def buildWeak : Build Unit := do
  let wm := Intrinsic.weakMapPrototype
  Build.newConstructor Intrinsic.weakMap wm "WeakMap" 0 (construct .weakMap wm "set" true)
  Build.method wm "delete" 1 (delete .weakMap)
  Build.method wm "get" 1 (get .weakMap)
  Build.method wm "has" 1 (has .weakMap)
  Build.method wm "set" 2 fun i => do
    let r ← requireKind .weakMap i
    requireWeak (i.arg 0) "WeakMap.set: expected target argument of type \x60object\x60"
    change .weakMap r (·.insert (i.arg 0) (i.arg 1))
    return i.this
  Build.tag wm "WeakMap"
  let ws := Intrinsic.weakSetPrototype
  Build.newConstructor Intrinsic.weakSet ws "WeakSet" 0 (construct .weakSet ws "add" false)
  Build.method ws "add" 1 fun i => do
    let r ← requireKind .weakSet i
    requireWeak (i.arg 0) "WeakSet.add: provided value is not an object"
    change .weakSet r (·.insert (i.arg 0) (i.arg 0))
    return i.this
  Build.method ws "delete" 1 (delete .weakSet)
  Build.method ws "has" 1 (has .weakSet)
  Build.tag ws "WeakSet"
  let wr := Intrinsic.weakRefPrototype
  Build.newConstructor Intrinsic.weakRef wr "WeakRef" 1 fun i => do
    requireWeak (i.arg 0) "WeakRef: expected target argument of type \x60object\x60"
    i.create wr (.weakRef (i.arg 0))
  Build.method wr "deref" 0 fun i => do
    match i.this with
    | .object r =>
      match ← Heap.kindOf r with
      | .weakRef v => return v
      | _ => typeError "WeakRef.prototype.deref: expected \x60this\x60 to be a \x60WeakRef\x60 object"
    | _ => typeError "WeakRef.prototype.deref: expected \x60this\x60 to be a \x60WeakRef\x60 object"
  Build.tag wr "WeakRef"
  let fr := Intrinsic.finalizationPrototype
  Build.newConstructor Intrinsic.finalizationRegistry fr "FinalizationRegistry" 1 fun i => do
    if !(← Object.isCallable (i.arg 0)) then typeError "FinalizationRegistry: cleanup callback must be callable"
    i.create fr .finalizationRegistry
  Build.method fr "register" 2 fun _ => return .undefined
  Build.method fr "unregister" 1 fun _ => return .bool false
  Build.tag fr "FinalizationRegistry"

end Builtin.Collections

end Playpen.Engine
