import Playpen.Engine.Builtin.Bytes

/-!
# Built-in functions: typed arrays

A typed array shows a stretch of a buffer as numbers of one type.  What its methods have in common
with those of arrays is done by them.
-/

namespace Playpen.Engine

open M
open Playpen.Text (Wide)

namespace Builtin.TypedArrays

open Bytes (elementTypes toElement isBigint)

/-- A typed array as it is found in the heap. -/
structure Typed where
  self : Ref
  type : ElementType
  buffer : Ref
  offset : Nat
  length : Nat

def Typed.size (t : Typed) : Nat := Object.ElementType.bytes t.type

def typed? (v : Value) : M (Option Typed) := do
  match v with
  | .object r =>
    match ← Heap.kindOf r with
    | .typedArray t buffer offset length => return some ⟨r, t, buffer, offset, length⟩
    | _ => return none
  | _ => return none

def this (i : Invocation) : M Typed := do
  match ← typed? i.this with
  | some t => return t
  | none => typeError "Value is not a typed array object"

/-- The place of an element type among all. -/
def position (t : ElementType) : Nat := (elementTypes.map (·.1)).idxOf t

def name (t : ElementType) : String := ((elementTypes.lookup t).getD "") ++ "Array"

def constructorOf (t : ElementType) : Ref := Intrinsic.typedArrays + position t

def prototypeOf (t : ElementType) : Ref := Intrinsic.typedArrays + elementTypes.length + position t

def get (t : Typed) (k : Nat) : M Value := do
  return (← Object.typedGet t.type t.buffer t.offset t.length k).getD .undefined

/-- Sets an element to a value that has been converted. -/
def put (t : Typed) (k : Nat) (v : Value) : M Unit := Object.typedSet t.type t.buffer t.offset t.length k v

def elements (t : Typed) : M (Array Value) := (Array.range t.length).mapM (get t)

/-- A typed array of a length, all of its elements zero. -/
def newSized (proto : Ref) (t : ElementType) (n : Nat) : M Typed := do
  let buffer ← Bytes.newBuffer Intrinsic.bufferPrototype (n * Object.ElementType.bytes t)
  let r ← Heap.allocKind (some proto) (.typedArray t buffer 0 n)
  return ⟨r, t, buffer, 0, n⟩

/-- Sets all elements, converting the values. -/
def fillFrom (t : Typed) (vs : Array Value) : M Unit := do
  for k in [0:vs.size] do put t k (← toElement t.type (vs.getD k .undefined))

/-- A typed array with the given elements. -/
def ofValues (proto : Ref) (t : ElementType) (vs : Array Value) : M Typed := do
  let a ← newSized proto t vs.size
  fillFrom a vs
  return a

/-! ## Making typed arrays -/

def mixed : M α := typeError "Cannot initialize typed array from different content type"

/-- A typed array over a buffer. -/
def overBuffer (proto : Ref) (t : ElementType) (buffer : Ref) (offsetArg lengthArg : Value) : M Ref := do
  let size := Object.ElementType.bytes t
  let offset ← toIndex offsetArg
  if offset % size != 0 then rangeError "Invalid offset for typed array"
  let total := (← Bytes.bytesOf buffer).size
  let length ← match lengthArg with
    | .undefined =>
      if total % size != 0 then rangeError "Invalid length for typed array"
      if offset > total then rangeError "Invalid length for typed array"
      pure ((total - offset) / size)
    | v => do
      let n ← toIndex v
      if offset + n * size > total then rangeError "Invalid length for typed array"
      pure n
  Heap.allocKind (some proto) (.typedArray t buffer offset length)

/-- The items of a value that can be iterated, or the elements of what is like an array. -/
def itemsOf (v : Value) : M (Array Value) := do
  match ← Object.getMethod v (.symbol Sym.iterator) with
  | some _ => Iter.toArray v
  | none => Object.listOf (.object (← toObject v))

def construct (t : ElementType) : Behaviour := fun i => do
  if !i.isConstruct then typeError s!"new target was undefined when constructing an {name t}"
  let proto ← i.proto (prototypeOf t)
  match i.arg 0 with
  | .object r =>
    match ← Heap.kindOf r with
    | .buffer _ => return .object (← overBuffer proto t r (i.arg 1) (i.arg 2))
    | .typedArray s _ _ _ =>
      if isBigint s != isBigint t then mixed
      match ← typed? (.object r) with
      | some source => return .object (← ofValues proto t (← elements source)).self
      | none => return .undefined
    | _ => return .object (← ofValues proto t (← itemsOf (.object r))).self
  | v => return .object (← newSized proto t (← toIndex v)).self

/-- The typed array that a constructor makes. -/
def create (c : Value) (args : Array Value) : M Typed := do
  match ← typed? (← M.construct c args c) with
  | some t => return t
  | none => typeError "Value is not a typed array object"

/-- The typed array that a method's result goes to. -/
def speciesCreate (t : Typed) (args : Array Value) : M Typed := do
  let standard := Value.object (constructorOf t.type)
  let c ← match ← Object.getNamed t.self "constructor" with
    | .undefined => pure standard
    | .object c =>
      match ← Object.get c (.symbol Sym.species) with
      | .undefined => pure standard
      | .null => pure standard
      | s => pure s
    | _ => typeError "property 'constructor' is not an object"
  let made ← create c args
  if isBigint made.type != isBigint t.type then typeError "Can only create typed array with same content type"
  return made

def of : Behaviour := fun i => do
  if !(← Object.isConstructor i.this) then typeError "TypedArray.of called on non-constructable value"
  let a ← create i.this #[.nat i.args.size]
  fillFrom a i.args
  return .object a.self

def from_ : Behaviour := fun i => do
  if !(← Object.isConstructor i.this) then typeError "TypedArray.from called on non-constructable value"
  let f := i.arg 1
  if !f.isUndefined && !(← Object.isCallable f) then typeError "TypedArray.from called with non-callable mapfn"
  let items ← itemsOf (i.arg 0)
  let a ← create i.this #[.nat items.size]
  for k in [0:items.size] do
    let v := items.getD k .undefined
    let v ← if f.isUndefined then pure v else call f (i.arg 2) #[v, .nat k]
    put a k (← toElement a.type v)
  return .object a.self

/-! ## Methods -/

/-- A method of arrays on a typed array. -/
def shared (f : Behaviour) : Behaviour := fun i => do
  discard (this i)
  f i

def callback (v : Value) (method : String) : M Unit :=
  Arrays.callback v s!"TypedArray.prototype.{method} called with non-callable callback function"

def map : Behaviour := fun i => do
  let t ← this i
  callback (i.arg 0) "map"
  let a ← speciesCreate t #[.nat t.length]
  for k in [0:t.length] do
    put a k (← toElement a.type (← call (i.arg 0) (i.arg 1) #[← get t k, .nat k, i.this]))
  return .object a.self

def filter : Behaviour := fun i => do
  let t ← this i
  callback (i.arg 0) "filter"
  let mut kept := #[]
  for k in [0:t.length] do
    let v ← get t k
    if (← call (i.arg 0) (i.arg 1) #[v, .nat k, i.this]).truthy then kept := kept.push v
  let a ← speciesCreate t #[.nat kept.size]
  fillFrom a kept
  return .object a.self

def fill : Behaviour := fun i => do
  let t ← this i
  let v ← toElement t.type (i.arg 0)
  let start ← Arrays.relative (i.arg 1) t.length 0
  let stop ← Arrays.relative (i.arg 2) t.length t.length
  for k in [start:stop] do put t k v
  return i.this

def reverse : Behaviour := fun i => do
  let t ← this i
  fillFrom t (← elements t).reverse
  return i.this

def slice : Behaviour := fun i => do
  let t ← this i
  let start ← Arrays.relative (i.arg 0) t.length 0
  let stop ← Arrays.relative (i.arg 1) t.length t.length
  let a ← speciesCreate t #[.nat (stop - start)]
  fillFrom a ((← elements t).extract start stop)
  return .object a.self

def subarray : Behaviour := fun i => do
  let t ← this i
  let start ← Arrays.relative (i.arg 0) t.length 0
  let stop ← Arrays.relative (i.arg 1) t.length t.length
  let a ← speciesCreate t #[.object t.buffer, .nat (t.offset + start * t.size), .nat (stop - start)]
  return .object a.self

def set : Behaviour := fun i => do
  let t ← this i
  let x ← toIntegerOrInf (i.arg 1)
  if x < 0 then rangeError "TypedArray.set called with negative offset"
  let items ← match ← typed? (i.arg 0) with
    | some s => do
      if isBigint s.type != isBigint t.type then
        typeError "TypedArray.set called with typed array with different content type"
      elements s
    | none => Object.listOf (.object (← toObject (i.arg 0)))
  if x + items.size.toFloat > t.length.toFloat then
    rangeError "TypedArray.set called with a source that is too long"
  let offset := x.toUInt64.toNat
  for k in [0:items.size] do put t (offset + k) (← toElement t.type (items.getD k .undefined))
  return .undefined

/-- The order of numbers, in which zeros differ and what is no number comes last. -/
def before (f : Value) (a b : Value) : M Bool := do
  match f, a, b with
  | .undefined, .number x, .number y =>
    return x < y || (!x.isNaN && y.isNaN) || (x == 0 && y == 0 && Decimal.isNegative x && !Decimal.isNegative y)
  | .undefined, .bigint x, .bigint y => return x < y
  | .undefined, _, _ => return false
  | f, a, b => return (← toNumber (← call f .undefined #[a, b])) < 0

def sorted (t : Typed) (f : Value) : M (Array Value) := do
  return (← Arrays.sortList (before f) 64 (← elements t).toList).toArray

def checkComparison (v : Value) (method : String) : M Unit := do
  if !v.isUndefined && !(← Object.isCallable v) then
    typeError s!"TypedArray.{method} called with non-callable comparefn"

def sort : Behaviour := fun i => do
  checkComparison (i.arg 0) "sort"
  let t ← this i
  fillFrom t (← sorted t (i.arg 0))
  return i.this

def standardProto (t : Typed) : Ref := prototypeOf t.type

def toSorted : Behaviour := fun i => do
  checkComparison (i.arg 0) "toSorted"
  let t ← this i
  return .object (← ofValues (standardProto t) t.type (← sorted t (i.arg 0))).self

def toReversed : Behaviour := fun i => do
  let t ← this i
  return .object (← ofValues (standardProto t) t.type (← elements t).reverse).self

def withElement : Behaviour := fun i => do
  let t ← this i
  let x ← toIntegerOrInf (i.arg 0)
  let at_ := if x ≥ 0 then x else t.length.toFloat + x
  let v ← toElement t.type (i.arg 1)
  if at_ < 0 || at_ ≥ t.length.toFloat then rangeError "invalid integer index for TypedArray operation"
  let items := (← elements t).setIfInBounds at_.toUInt64.toNat v
  return .object (← ofValues (standardProto t) t.type items).self

def copyWithin : Behaviour := fun i => do
  let t ← this i
  let target ← Arrays.relative (i.arg 0) t.length 0
  let start ← Arrays.relative (i.arg 1) t.length 0
  let stop ← Arrays.relative (i.arg 2) t.length t.length
  let items ← elements t
  for k in [0:min (stop - start) (t.length - target)] do put t (target + k) (items.getD (start + k) .undefined)
  return i.this

def iterator (kind : IterationKind) : Behaviour := fun i => do
  let t ← this i
  return .object (← Heap.allocKind (some Intrinsic.arrayIteratorPrototype) (.arrayIterator (.object t.self) 0 kind))

/-- Methods that work as those of arrays do, with the numbers of their parameters. -/
def likeArrays : List (String × Nat × Behaviour) := [
  ("at", 1, Arrays.at_), ("every", 1, Arrays.every), ("find", 1, Arrays.find), ("findIndex", 1, Arrays.findIndex),
  ("findLast", 1, Arrays.findLast), ("findLastIndex", 1, Arrays.findLastIndex), ("forEach", 1, Arrays.forEach),
  ("includes", 1, Arrays.includes), ("indexOf", 1, Arrays.indexOf), ("join", 1, Arrays.join),
  ("lastIndexOf", 1, Arrays.lastIndexOf), ("reduce", 1, Arrays.reduce false),
  ("reduceRight", 1, Arrays.reduce true), ("some", 1, Arrays.some_), ("toLocaleString", 0, Arrays.toLocaleString)]

def buildCommon : Build Unit := do
  let c := Intrinsic.typedArray
  let p := Intrinsic.typedArrayPrototype
  Build.constructor c p "TypedArray" 0 fun _ => typeError "the TypedArray constructor should never be called directly"
  Build.species c
  Build.method c "from" 1 from_
  Build.method c "of" 0 of
  Build.getter p "buffer" fun i => return .object (← this i).buffer
  Build.getter p "byteLength" fun i => do
    let t ← this i
    return .nat (t.length * t.size)
  Build.getter p "byteOffset" fun i => return .nat (← this i).offset
  Build.getter p "length" fun i => return .nat (← this i).length
  Build.getterAt p (.symbol Sym.toStringTag) "[Symbol.toStringTag]" fun i => do
    return ((← typed? i.this).map fun t => Value.str (name t.type)).getD .undefined
  likeArrays.forM fun (n, length, f) => Build.method p n length (shared f)
  Build.method p "copyWithin" 2 copyWithin
  Build.method p "entries" 0 (iterator .entries)
  Build.method p "fill" 1 fill
  Build.method p "filter" 1 filter
  Build.method p "keys" 0 (iterator .keys)
  Build.method p "map" 1 map
  Build.method p "reverse" 0 reverse
  Build.method p "set" 1 set
  Build.method p "slice" 2 slice
  Build.method p "sort" 1 sort
  Build.method p "subarray" 2 subarray
  Build.method p "toReversed" 0 toReversed
  Build.method p "toSorted" 1 toSorted
  Build.method p "with" 2 withElement
  let values ← Build.function "values" 0 (iterator .values)
  Build.hidden p "values" (.object values)
  Build.define p (.symbol Sym.iterator) (.data (.object values) .hidden)
  let toString ← Build.function "toString" 0 Arrays.toString
  Build.hidden p "toString" (.object toString)

def build : Build Unit := do
  buildCommon
  elementTypes.forM fun (t, _) => do
    let c := constructorOf t
    let p := prototypeOf t
    Build.constructor c p (name t) 3 (construct t)
    Build.setProto c (some Intrinsic.typedArray)
    Build.setProto p (some Intrinsic.typedArrayPrototype)
    let size := Value.nat (Object.ElementType.bytes t)
    Build.constant c "BYTES_PER_ELEMENT" size
    Build.constant p "BYTES_PER_ELEMENT" size

end Builtin.TypedArrays

end Playpen.Engine
