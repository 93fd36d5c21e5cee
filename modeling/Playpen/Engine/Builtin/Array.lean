import Playpen.Engine.Builtin.Basic

/-!
# Built-in functions: arrays

Most methods work on everything that has a length.
-/

namespace Playpen.Engine

open M
open Playpen.Text (Wide)

namespace Builtin.Arrays

/-- The object a method works on, with its length. -/
def thisList (i : Invocation) : M (Ref × Nat) := do
  let r ← toObject i.this
  return (r, ← lengthOf r)

/-- A new array of a length without elements. -/
def newSized (n : Nat) : M Ref := do
  if n > 4294967295 then Object.invalidLength
  Heap.allocKind (some Intrinsic.arrayPrototype) (.array #[] n true)

/-- The array that a method's result goes to, made by the constructor of the array it works on. -/
def speciesCreate (r : Ref) (n : Nat) : M Ref := do
  if !(← Object.isArray 1000 (.object r)) then newSized n
  else
    let c ← match ← Object.getNamed r "constructor" with
      | .object c =>
        match ← Object.get c (.symbol Sym.species) with
        | .null => pure .undefined
        | v => pure v
      | v => pure v
    match c with
    | .undefined => newSized n
    | c =>
      if c.same (.object Intrinsic.array) then newSized n
      else if !(← Object.isConstructor c) then typeError "Symbol.species must be a constructor"
      else match ← construct c #[.nat n] c with
        | .object r => return r
        | _ => newSized n

/-- A position given from the start, or from the end if negative. -/
def relative (v : Value) (length otherwise : Nat) : M Nat := do
  match v with
  | .undefined => return otherwise
  | v =>
    let x ← toIntegerOrInf v
    let n := length.toFloat
    if x < 0 then return (if n + x < 0 then 0 else (n + x).toUInt64.toNat)
    else return (if x > n then length else x.toUInt64.toNat)

def setLength (r : Ref) (n : Nat) : M Unit := Object.put r Object.lengthKey (.nat n)

def callback (v : Value) (failure : String) : M Unit := do
  if !(← Object.isCallable v) then typeError failure

/-- Goes through the elements that are there until the step has a result. -/
def firstResult (r : Ref) (length : Nat) (holes : Bool) (step : Nat → Value → M (Option Value)) :
    Nat → M (Option Value)
  | 0 => return none
  | n + 1 => do
    let k := length - (n + 1)
    if !holes && !(← Object.has r (.ofNat k)) then firstResult r length holes step n
    else match ← step k (← Object.get r (.ofNat k)) with
      | some v => return some v
      | none => firstResult r length holes step n

/-- As before from the last element on. -/
def lastResult (r : Ref) (step : Nat → Value → M (Option Value)) : Nat → M (Option Value)
  | 0 => return none
  | k + 1 => do
    match ← step k (← Object.get r (.ofNat k)) with
    | some v => return some v
    | none => lastResult r step k

/-- A method that calls its argument for the elements. -/
def visiting (failure : String) (holes : Bool) (step : Value → Nat → Value → Option Value) (otherwise : Value) :
    Behaviour := fun i => do
  let (r, n) ← thisList i
  let f := i.arg 0
  callback f failure
  let found ← firstResult r n holes (fun k v => do
    return step (← call f (i.arg 1) #[v, .nat k, .object r]) k v) n
  return found.getD otherwise

def every := visiting "Array.prototype.every: callback is not callable" false
  (fun b _ _ => if b.truthy then none else some (.bool false)) (.bool true)

def some_ := visiting "Array.prototype.some: callback is not callable" false
  (fun b _ _ => if b.truthy then some (.bool true) else none) (.bool false)

def forEach := visiting "Array.prototype.forEach: invalid callback function" false (fun _ _ _ => none) .undefined

def find := visiting "Array.prototype.find: predicate is not callable" true
  (fun b _ v => if b.truthy then some v else none) .undefined

def findIndex := visiting "Array.prototype.findIndex: predicate is not callable" true
  (fun b k _ => if b.truthy then some (.nat k) else none) (.int (-1))

def findingLast (failure : String) (step : Value → Nat → Value → Option Value) (otherwise : Value) :
    Behaviour := fun i => do
  let (r, n) ← thisList i
  let f := i.arg 0
  callback f failure
  let found ← lastResult r (fun k v => do return step (← call f (i.arg 1) #[v, .nat k, .object r]) k v) n
  return found.getD otherwise

def findLast := findingLast "Array.prototype.findLast: predicate is not callable"
  (fun b _ v => if b.truthy then some v else none) .undefined

def findLastIndex := findingLast "Array.prototype.findLastIndex: predicate is not callable"
  (fun b k _ => if b.truthy then some (.nat k) else none) (.int (-1))

def map : Behaviour := fun i => do
  let (r, n) ← thisList i
  let f := i.arg 0
  callback f "Array.prototype.map: Callbackfn is not callable"
  let a ← speciesCreate r n
  discard (firstResult r n false (fun k v => do
    Object.create a (.ofNat k) (← call f (i.arg 1) #[v, .nat k, .object r])
    return none) n)
  return .object a

def filter : Behaviour := fun i => do
  let (r, n) ← thisList i
  let f := i.arg 0
  callback f "Array.prototype.filter: \x60callback\x60 must be callable"
  let a ← speciesCreate r 0
  let mut target := 0
  for k in [0:n] do
    if ← Object.has r (.ofNat k) then
      let v ← Object.get r (.ofNat k)
      if (← call f (i.arg 1) #[v, .nat k, .object r]).truthy then
        Object.create a (.ofNat target) v
        target := target + 1
  return .object a

/-- The first element that is there counts as the start of a reduction if none is given. -/
def reduction (r : Ref) (f : Value) (order : List Nat) (start : Option Value) (name : String) : M Value := do
  let mut acc := start
  for k in order do
    if ← Object.has r (.ofNat k) then
      let v ← Object.get r (.ofNat k)
      match acc with
      | none => acc := some v
      | some a => acc := some (← call f .undefined #[a, v, .nat k, .object r])
  match acc with
  | some v => return v
  | none => typeError s!"Array.prototype.{name}: called on an empty array and with no initial value"

def reduce (right : Bool) : Behaviour := fun i => do
  let name := if right then "reduceRight" else "reduce"
  let (r, n) ← thisList i
  callback (i.arg 0) s!"Array.prototype.{name}: callback function is not callable"
  let order := List.range n
  reduction r (i.arg 0) (if right then order.reverse else order) i.args[1]? name

/-! ## Changing arrays -/

def tooLong : M α := typeError "the length + the number of arguments exceed the maximum safe integer limit"

def push : Behaviour := fun i => do
  let r ← toObject i.this
  let mut done := true
  for v in i.args do
    if done then
      if !(← Object.pushShort r v) then done := false
  if done && !i.args.isEmpty then return .nat (← lengthOf r)
  else
    -- only the first can have been refused, since what refuses one refuses all
    let n ← lengthOf r
    if n + i.args.size > 9007199254740991 then tooLong
    let mut target := n
    for v in i.args do
      Object.put r (.ofNat target) v
      target := target + 1
    setLength r target
    return .nat target

/-- Changes the items of an array whose items are all there and about which nothing has been changed;
says whether it is one. -/
def changePlain (heap : Array Obj) (r : Ref) (f : Array Value → Array Value) : Bool × Array Obj :=
  let plain := match heap.getD r default with
    | ⟨_, true, props, _, .array items length true⟩ =>
      props.entries.isEmpty && items.size == length && !items.any Value.isHole
    | _ => false
  if plain then
    (true, heap.modify r fun o =>
      match o with
      | ⟨proto, extensible, props, privates, .array items _ writable⟩ =>
        let items := f items
        let n := items.size
        ⟨proto, extensible, props, privates, .array items n writable⟩
      | o => o)
  else (false, heap)

def changeItems (r : Ref) (f : Array Value → Array Value) : M Bool := updateGet fun m =>
  let (done, heap) := changePlain m.heap r f
  (done, { m with heap := heap })

/-- The last item of an array, taken off, if nothing stands in the way. -/
def popInHeap (heap : Array Obj) (r : Ref) : Option Value × Array Obj :=
  let last := match heap.getD r default with
    | ⟨_, true, props, _, .array items length true⟩ =>
      if props.entries.isEmpty && items.size == length then
        match items.back? with
        | some .hole => none
        | v => v
      else none
    | _ => none
  match last with
  | none => (none, heap)
  | some v =>
    (some v, heap.modify r fun o =>
      match o with
      | ⟨proto, extensible, props, privates, .array items n writable⟩ =>
        ⟨proto, extensible, props, privates, .array items.pop (n - 1) writable⟩
      | o => o)

def popShort (r : Ref) : M (Option Value) := updateGet fun m =>
  let (last, heap) := popInHeap m.heap r
  (last, { m with heap := heap })

def pop : Behaviour := fun i => do
  let (r, n) ← thisList i
  if n == 0 then
    setLength r 0
    return .undefined
  else if let some v ← popShort r then return v
  else
    let k := PropKey.ofNat (n - 1)
    let v ← Object.get r k
    Object.deleteOrThrow r k
    setLength r (n - 1)
    return v

/-- Moves an element, or the lack of it. -/
def move (r : Ref) (from_ target : Nat) : M Unit := do
  if ← Object.has r (.ofNat from_) then Object.put r (.ofNat target) (← Object.get r (.ofNat from_))
  else Object.deleteOrThrow r (.ofNat target)

def shift : Behaviour := fun i => do
  let (r, n) ← thisList i
  if n == 0 then
    setLength r 0
    return .undefined
  else
    let v ← Object.get r (.index 0)
    if ← changeItems r fun items => items.extract 1 items.size then return v
    for k in [1:n] do move r k (k - 1)
    Object.deleteOrThrow r (.ofNat (n - 1))
    setLength r (n - 1)
    return v

def unshift : Behaviour := fun i => do
  let (r, n) ← thisList i
  let added := i.args.size
  if added > 0 then
    if n + added > 9007199254740991 then tooLong
    if ← changeItems r fun items => i.args ++ items then return .nat (n + added)
    for j in [0:n] do
      let k := n - 1 - j
      move r k (k + added)
    for j in [0:added] do Object.put r (.ofNat j) (i.arg j)
  setLength r (n + added)
  return .nat (n + added)

def reverse : Behaviour := fun i => do
  let (r, n) ← thisList i
  for low in [0:n / 2] do
    let high := n - 1 - low
    let a := PropKey.ofNat low
    let b := PropKey.ofNat high
    let hasLow ← Object.has r a
    let lowValue ← if hasLow then Object.get r a else pure .undefined
    let hasHigh ← Object.has r b
    let highValue ← if hasHigh then Object.get r b else pure .undefined
    if hasHigh then Object.put r a highValue else if hasLow then Object.deleteOrThrow r a
    if hasLow then Object.put r b lowValue else if hasHigh then Object.deleteOrThrow r b
  return .object r

def slice : Behaviour := fun i => do
  let (r, n) ← thisList i
  let start ← relative (i.arg 0) n 0
  let stop ← relative (i.arg 1) n n
  let a ← speciesCreate r (stop - start)
  for k in [start:stop] do
    if ← Object.has r (.ofNat k) then Object.create a (.ofNat (k - start)) (← Object.get r (.ofNat k))
  setLength a (stop - start)
  return .object a

/-- How many elements a splice removes. -/
def spliceCount (i : Invocation) (n start : Nat) : M Nat := do
  if i.args.isEmpty then return 0
  else if i.args.size == 1 then return n - start
  else
    let x ← toIntegerOrInf (i.arg 1)
    return if x ≤ 0 then 0 else if x ≥ (n - start).toFloat then n - start else x.toUInt64.toNat

def splice : Behaviour := fun i => do
  let (r, n) ← thisList i
  let start ← relative (i.arg 0) n 0
  let added := i.rest 2
  let removed ← spliceCount i n start
  if n + added.size - removed > 9007199254740991 then typeError "the resulting array exceeds the maximum safe integer limit"
  let a ← speciesCreate r removed
  for k in [0:removed] do
    if ← Object.has r (.ofNat (start + k)) then
      Object.create a (.ofNat k) (← Object.get r (.ofNat (start + k)))
  setLength a removed
  if added.size < removed then
    for k in [start:n - removed] do move r (k + removed) (k + added.size)
    for j in [0:removed - added.size] do Object.deleteOrThrow r (.ofNat (n - 1 - j))
  else if added.size > removed then
    for j in [0:n - removed - start] do
      let k := n - removed - 1 - j
      move r (k + removed) (k + added.size)
  for j in [0:added.size] do Object.put r (.ofNat (start + j)) (added.getD j .undefined)
  setLength r (n + added.size - removed)
  return .object a

def fill : Behaviour := fun i => do
  let (r, n) ← thisList i
  let start ← relative (i.arg 1) n 0
  let stop ← relative (i.arg 2) n n
  for k in [start:stop] do Object.put r (.ofNat k) (i.arg 0)
  return .object r

def copyWithin : Behaviour := fun i => do
  let (r, n) ← thisList i
  let target ← relative (i.arg 0) n 0
  let from_ ← relative (i.arg 1) n 0
  let final ← relative (i.arg 2) n n
  let count := min (final - from_) (n - target)
  if from_ < target && target < from_ + count then
    for j in [0:count] do move r (from_ + (count - 1 - j)) (target + (count - 1 - j))
  else
    for j in [0:count] do move r (from_ + j) (target + j)
  return .object r

/-! ## Sorting -/

def insertSorted (less : Value → Value → M Bool) (v : Value) : List Value → M (List Value)
  | [] => return [v]
  | x :: rest => do
    -- from the last element on
    if ← less v x then return x :: (← insertSorted less v rest) else return v :: x :: rest

/-- Sorts a short list by inserting one element after the other. -/
def sortShort (less : Value → Value → M Bool) (vs : List Value) : M (List Value) := do
  let rec go : List Value → List Value → M (List Value)
    | [], acc => return acc.reverse
    | v :: rest, acc => do go rest (← insertSorted less v acc)
  go vs []

def merge (less : Value → Value → M Bool) : Nat → List Value → List Value → List Value → M (List Value)
  | 0, _, _, acc => return acc.reverse
  | _ + 1, [], ys, acc => return acc.reverse ++ ys
  | _ + 1, xs, [], acc => return acc.reverse ++ xs
  | n + 1, x :: xs, y :: ys, acc => do
    if ← less y x then merge less n (x :: xs) ys (y :: acc) else merge less n xs (y :: ys) (x :: acc)

/-- Sorts; elements that are equal keep their order. -/
def sortList (less : Value → Value → M Bool) : Nat → List Value → M (List Value)
  | 0, vs => return vs
  | n + 1, vs => do
    let length := vs.length
    if length ≤ 20 then sortShort less vs
    else
      let half := length / 2
      let a ← sortList less n (vs.take half)
      let b ← sortList less n (vs.drop half)
      merge less (length + 1) a b []

/-- Whether one element belongs before another; undefined comes last. -/
def before (f : Value) (a b : Value) : M Bool := do
  match a, b with
  | .undefined, _ => return false
  | _, .undefined => return true
  | a, b =>
    match f with
    | .undefined => return (← toText a).lt (← toText b)
    | f => return (← toNumber (← call f .undefined #[a, b])) < 0

def checkComparison (f : Value) : M Unit := do
  match f with
  | .undefined => pure ()
  | f => if !(← Object.isCallable f) then typeError "The comparison function must be either a function or undefined"

def sort : Behaviour := fun i => do
  checkComparison (i.arg 0)
  let (r, n) ← thisList i
  let mut items := #[]
  for k in [0:n] do
    if ← Object.has r (.ofNat k) then items := items.push (← Object.get r (.ofNat k))
  let sorted ← sortList (before (i.arg 0)) 64 items.toList
  let mut target := 0
  for v in sorted do
    Object.put r (.ofNat target) v
    target := target + 1
  for k in [items.size:n] do
    if ← Object.has r (.ofNat k) then Object.deleteOrThrow r (.ofNat k)
  return .object r

/-! ## Copies -/

/-- All elements, those that are missing as undefined. -/
def elements (r : Ref) (n : Nat) : M (Array Value) := do
  let mut items := #[]
  for k in [0:n] do items := items.push (← Object.get r (.ofNat k))
  return items

def checkCopy (n : Nat) : M Unit := do
  if n > 4294967295 then Object.invalidLength

def toReversed : Behaviour := fun i => do
  let (r, n) ← thisList i
  checkCopy n
  Object.newArray (← elements r n).reverse

def toSorted : Behaviour := fun i => do
  checkComparison (i.arg 0)
  let (r, n) ← thisList i
  checkCopy n
  Object.newArray (← sortList (before (i.arg 0)) 64 (← elements r n).toList).toArray

def toSpliced : Behaviour := fun i => do
  let (r, n) ← thisList i
  let start ← relative (i.arg 0) n 0
  let removed ← spliceCount i n start
  checkCopy (n + (i.rest 2).size - removed)
  let items ← elements r n
  Object.newArray (items.extract 0 start ++ i.rest 2 ++ items.extract (start + removed) n)

def withElement : Behaviour := fun i => do
  let (r, n) ← thisList i
  let x ← toIntegerOrInf (i.arg 0)
  let at_ := if x ≥ 0 then x else n.toFloat + x
  if at_ < 0 || at_ ≥ n.toFloat then rangeError "invalid integer index for TypedArray operation"
  let items ← elements r n
  Object.newArray (items.setIfInBounds at_.toUInt64.toNat (i.arg 1))

/-! ## Looking into arrays -/

def at_ : Behaviour := fun i => do
  let (r, n) ← thisList i
  let x ← toIntegerOrInf (i.arg 0)
  let k := if x ≥ 0 then x else n.toFloat + x
  if k < 0 || k ≥ n.toFloat then return .undefined
  Object.get r (.ofNat k.toUInt64.toNat)

def includes : Behaviour := fun i => do
  let (r, n) ← thisList i
  let start ← relative (i.arg 1) n 0
  for k in [start:n] do
    if (← Object.get r (.ofNat k)).sameZero (i.arg 0) then return .bool true
  return .bool false

def indexOf : Behaviour := fun i => do
  let (r, n) ← thisList i
  let start ← relative (i.arg 1) n 0
  for k in [start:n] do
    if ← Object.has r (.ofNat k) then
      if (← Object.get r (.ofNat k)).same (i.arg 0) then return .nat k
  return .int (-1)

def lastIndexOf : Behaviour := fun i => do
  let (r, n) ← thisList i
  if n == 0 then return .int (-1)
  let x ← if i.args.size > 1 then toIntegerOrInf (i.arg 1) else pure (n.toFloat - 1)
  let start := if x ≥ 0 then (if x > n.toFloat - 1 then n.toFloat - 1 else x) else n.toFloat + x
  if start < 0 then return .int (-1)
  let top := start.toUInt64.toNat
  for j in [0:top + 1] do
    let k := top - j
    if ← Object.has r (.ofNat k) then
      if (← Object.get r (.ofNat k)).same (i.arg 0) then return .nat k
  return .int (-1)

/-! ## Texts -/

/-- Runs a computation on an array's text, which is empty if the array is part of itself. -/
def guarded (r : Ref) (x : M Value) : M Value := do
  if (← look (·.joining)).contains r then return .str ""
  update fun m => { m with joining := r :: m.joining }
  let result ← attempt x
  update fun m => { m with joining := m.joining.erase r }
  match result with
  | .ok v => return v
  | .error e => fail e

def joinWith (r : Ref) (n : Nat) (separator : Wide) (text : Value → M Wide) : M Value := do
  let mut acc : Array Wide := #[]
  for k in [0:n] do
    let v ← Object.get r (.ofNat k)
    let w ← if v.isNullish then pure (.plain "") else text v
    acc := acc.push w
  return .text (intercalate acc separator)
where
  intercalate (ws : Array Wide) (separator : Wide) : Wide :=
    (ws.foldl (fun (acc : Wide × Bool) w => (if acc.2 then acc.1 ++ separator ++ w else w, true)) (.plain "", false)).1

def join : Behaviour := fun i => do
  let (r, n) ← thisList i
  guarded r do
    let separator ← match i.arg 0 with
      | .undefined => pure (Wide.plain ",")
      | v => toText v
    joinWith r n separator toText

def toString : Behaviour := fun i => do
  let r ← toObject i.this
  match ← Object.getNamed r "join" with
  | f =>
    if ← Object.isCallable f then call f (.object r) #[]
    else
      let toStr ← Object.get Intrinsic.objectPrototype (.ofString "toString")
      call toStr (.object r) #[]

def toLocaleString : Behaviour := fun i => do
  let (r, n) ← thisList i
  guarded r (joinWith r n (.plain ", ") fun v => do toText (← Object.invoke v (.ofString "toLocaleString") #[]))

/-! ## Nested arrays -/

def isSpreadable (v : Value) : M Bool := do
  match v with
  | .object r =>
    match ← Object.get r (.symbol Sym.isConcatSpreadable) with
    | .undefined => Object.isArray 1000 v
    | b => return b.truthy
  | _ => return false

def concat : Behaviour := fun i => do
  let o ← toObject i.this
  let a ← speciesCreate o 0
  let mut target := 0
  for item in #[Value.object o] ++ i.args do
    if ← isSpreadable item then
      match item with
      | .object r =>
        let n ← lengthOf r
        if target + n > 9007199254740991 then typeError "length + number of arguments exceeds the max safe integer limit"
        for k in [0:n] do
          if ← Object.has r (.ofNat k) then Object.create a (.ofNat (target + k)) (← Object.get r (.ofNat k))
        target := target + n
      | _ => pure ()
    else
      Object.create a (.ofNat target) item
      target := target + 1
  setLength a target
  return .object a

/-- Elements of nested arrays up to a depth, mapped at the top. -/
def flatten (depth : Nat) (r : Ref) (map : Option (Value → Nat → M Value)) : Nat → M (Array Value)
  | 0 => return #[]
  | fuel + 1 => do
    let n ← lengthOf r
    let mut acc := #[]
    for k in [0:n] do
      if ← Object.has r (.ofNat k) then
        let v ← Object.get r (.ofNat k)
        let v ← match map with
          | some f => f v k
          | none => pure v
        match v with
        | .object inner =>
          if depth > 0 && (← Object.isArray 1000 v) then
            acc := acc ++ (← flatten (depth - 1) inner none fuel)
          else acc := acc.push v
        | v => acc := acc.push v
    return acc

def fillNew (r : Ref) (items : Array Value) : M Value := do
  let a ← speciesCreate r 0
  let mut target := 0
  for v in items do
    Object.create a (.ofNat target) v
    target := target + 1
  return .object a

def flat : Behaviour := fun i => do
  let r ← toObject i.this
  let depth ← match i.arg 0 with
    | .undefined => pure 1
    | v => toIntegerOrInf v
  let depth := if depth < 0 then 0 else if depth > 100000 then 100000 else depth.toUInt64.toNat
  fillNew r (← flatten depth r none (depth + 1))

def flatMap : Behaviour := fun i => do
  let r ← toObject i.this
  callback (i.arg 0) "flatMap mapper function is not callable"
  fillNew r (← flatten 1 r (some fun v k => call (i.arg 0) (i.arg 1) #[v, .nat k, .object r]) 2)

/-! ## Making arrays -/

def construct : Behaviour := fun i => do
  let p ← if i.isConstruct then i.proto Intrinsic.arrayPrototype else pure Intrinsic.arrayPrototype
  let make (kind : Kind) : M Value := return .object (← Heap.allocKind (some p) kind)
  match i.args with
  | #[.number x] =>
    match Object.arrayLength? (.number x) with
    | some n => make (.array #[] n true)
    | none => Object.invalidLength
  | args => make (.array args args.size true)

/-- A list made by a constructor, or an array. -/
def newList (c : Value) (args : Array Value) : M Ref := do
  if ← Object.isConstructor c then
    match ← M.construct c args c with
    | .object r => return r
    | _ => newSized 0
  else newSized 0

def of : Behaviour := fun i => do
  let r ← newList i.this #[.nat i.args.size]
  for k in [0:i.args.size] do Object.create r (.ofNat k) (i.arg k)
  setLength r i.args.size
  return .object r

def from_ : Behaviour := fun i => do
  let f := i.arg 1
  let mapped ← match f with
    | .undefined => pure false
    | f =>
      if !(← Object.isCallable f) then typeError s!"{← typeOf f} is not a function"
      pure true
  let item (v : Value) (k : Nat) : M Value := if mapped then call f (i.arg 2) #[v, .nat k] else pure v
  match ← Object.getMethod (i.arg 0) (.symbol Sym.iterator) with
  | some method =>
    let r ← newList i.this #[]
    let it ← Iter.ofValue (← call method (i.arg 0) #[])
    let n ← Iter.foldFrom it (fun k v => do
      Object.create r (.ofNat k) (← item v k)
      return k + 1) Iter.bound 0
    setLength r n
    return .object r
  | none =>
    let source ← toObject (i.arg 0)
    let n ← lengthOf source
    let r ← newList i.this #[.nat n]
    for k in [0:n] do Object.create r (.ofNat k) (← item (← Object.get source (.ofNat k)) k)
    setLength r n
    return .object r

def iterator (kind : IterationKind) : Behaviour := fun i => do
  let r ← toObject i.this
  return .object (← Heap.allocKind (some Intrinsic.arrayIteratorPrototype) (.arrayIterator (.object r) 0 kind))

/-- Names that `with` passes over. -/
def unscopables : List String := [
  "at", "copyWithin", "entries", "fill", "find", "findIndex", "findLast", "findLastIndex", "flat", "flatMap",
  "includes", "keys", "toReversed", "toSorted", "toSpliced", "values"]

def build : Build Unit := do
  let c := Intrinsic.array
  let p := Intrinsic.arrayPrototype
  Build.setKind p (.array #[] 0 true)
  Build.constructor c p "Array" 1 construct
  Build.species c
  Build.method c "from" 1 from_
  Build.method c "isArray" 1 fun i => return .bool (← Object.isArray 1000 (i.arg 0))
  Build.method c "of" 0 of
  Build.functionAt Intrinsic.arrayValues "values" 0 (iterator .values)
  Build.hidden p "values" (.object Intrinsic.arrayValues)
  Build.define p (.symbol Sym.iterator) (.data (.object Intrinsic.arrayValues) .hidden)
  Build.method p "at" 1 at_
  Build.method p "concat" 1 concat
  Build.method p "push" 1 push
  Build.method p "indexOf" 1 indexOf
  Build.method p "lastIndexOf" 1 lastIndexOf
  Build.method p "includes" 1 includes
  Build.method p "map" 1 map
  Build.method p "every" 1 every
  Build.method p "find" 1 find
  Build.method p "findIndex" 1 findIndex
  Build.method p "findLast" 1 findLast
  Build.method p "findLastIndex" 1 findLastIndex
  Build.method p "flat" 0 flat
  Build.method p "flatMap" 1 flatMap
  Build.method p "slice" 2 slice
  Build.method p "some" 1 some_
  Build.method p "sort" 1 sort
  Build.method p "splice" 2 splice
  Build.method p "toLocaleString" 0 toLocaleString
  Build.method p "toReversed" 0 toReversed
  Build.method p "toSorted" 1 toSorted
  Build.method p "toSpliced" 2 toSpliced
  Build.method p "toString" 0 toString
  Build.method p "unshift" 1 unshift
  Build.method p "with" 2 withElement
  Build.method p "keys" 0 (iterator .keys)
  Build.method p "entries" 0 (iterator .entries)
  Build.method p "reduce" 1 (reduce false)
  Build.method p "reduceRight" 1 (reduce true)
  Build.method p "filter" 1 filter
  Build.method p "fill" 1 fill
  Build.method p "forEach" 1 forEach
  Build.method p "join" 1 join
  Build.method p "pop" 0 pop
  Build.method p "shift" 0 shift
  Build.method p "reverse" 0 reverse
  Build.method p "copyWithin" 2 copyWithin
  let u ← Build.alloc (Build.plainObject none)
  unscopables.forM fun n => Build.define u (.ofString n) (.data (.bool true) .all)
  Build.define p (.symbol Sym.unscopables) (.data (.object u) .configurableOnly)

end Builtin.Arrays

end Playpen.Engine
