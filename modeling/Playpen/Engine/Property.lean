import Playpen.Engine.Machine

/-!
# Properties

The operations every object has, as the script language defines them, for objects of all kinds.
Objects that hand an operation on to another object use `ObjectOps` with one step less to go, so
that chains of them come to an end.
-/

namespace Playpen.Engine

open M
open Playpen.Text (Wide)

/-- What is asked of a property; what is left out stays as it is. -/
structure Desc where
  value : Option Value
  writable : Option Bool
  get : Option Value
  set : Option Value
  enumerable : Option Bool
  configurable : Option Bool
  deriving Inhabited

namespace Desc

def empty : Desc := ⟨none, none, none, none, none, none⟩

def data (v : Value) (a : Attrs) : Desc :=
  ⟨some v, some a.writable, none, none, some a.enumerable, some a.configurable⟩

def ofSlot : Slot → Desc
  | .data v a => data v a
  | .accessor g s e c => ⟨none, none, some g, some s, some e, some c⟩

def isAccessor (d : Desc) : Bool := d.get.isSome || d.set.isSome
def isData (d : Desc) : Bool := d.value.isSome || d.writable.isSome

/-- The new property that a description makes. -/
def toSlot (d : Desc) : Slot :=
  if d.isAccessor then
    .accessor (d.get.getD .undefined) (d.set.getD .undefined) (d.enumerable.getD false) (d.configurable.getD false)
  else
    .data (d.value.getD .undefined) ⟨d.writable.getD false, d.enumerable.getD false, d.configurable.getD false⟩

def agrees (o : Option Bool) (b : Bool) : Bool := o.all (· == b)

/-- Whether a property may be changed as asked. -/
def allowed (d : Desc) (s : Slot) : Bool :=
  if s.isConfigurable then true
  else if d.configurable == some true then false
  else if !agrees d.enumerable s.isEnumerable then false
  else match s with
    | .data v a =>
      !d.isAccessor && (a.writable || (d.writable != some true && d.value.all (·.identical v)))
    | .accessor g st _ _ =>
      !d.isData && d.get.all (·.identical g) && d.set.all (·.identical st)

/-- The property after the change. -/
def apply (d : Desc) (s : Slot) : Slot :=
  let e := d.enumerable.getD s.isEnumerable
  let c := d.configurable.getD s.isConfigurable
  match s with
  | .data v a =>
    if d.isAccessor then .accessor (d.get.getD .undefined) (d.set.getD .undefined) e c
    else .data (d.value.getD v) ⟨d.writable.getD a.writable, e, c⟩
  | .accessor g st _ _ =>
    if d.isData then .data (d.value.getD .undefined) ⟨d.writable.getD false, e, c⟩
    else .accessor (d.get.getD g) (d.set.getD st) e c

end Desc

/-- The operations of objects. -/
structure ObjectOps where
  getOwn : Ref → PropKey → M (Option Slot)
  define : Ref → PropKey → Desc → M Bool
  has : Ref → PropKey → M Bool
  get : Ref → PropKey → Value → M Value
  set : Ref → PropKey → Value → Value → M Bool
  delete : Ref → PropKey → M Bool
  keys : Ref → M (List PropKey)
  getProto : Ref → M (Option Ref)
  setProto : Ref → Option Ref → M Bool
  isExtensible : Ref → M Bool
  preventExtensions : Ref → M Bool

namespace Object

def exhausted : M α := limitError "exceeded maximum number of recursive calls"

def lengthKey : PropKey := .text (.plain "length")

/-- A key as error texts show it. -/
def keyText (k : PropKey) : M String :=
  match k with
  | .text w => pure w.display
  | .index n => pure (toString n)
  | .symbol id => do
    let d ← look fun m => m.symbols.getD id none
    return "Symbol(" ++ (d.map Wide.display).getD "" ++ ")"

/-! ## Elements of typed arrays -/

def ElementType.bytes : ElementType → Nat
  | .int8 | .uint8 | .uint8Clamped => 1
  | .int16 | .uint16 => 2
  | .int32 | .uint32 | .float32 => 4
  | .bigInt64 | .bigUint64 | .float64 => 8

/-- The unsigned number in bytes, the least first. -/
def readBytes (bytes : ByteArray) (start n : Nat) : Nat :=
  (List.range n).foldr (fun i acc => acc * 256 + (bytes.get! (start + i)).toNat) 0

def writeBytes (bytes : ByteArray) (start n v : Nat) : ByteArray :=
  ((List.range n).foldl (fun (acc : ByteArray × Nat) i =>
    (acc.1.set! (start + i) (UInt8.ofNat (acc.2 % 256)), acc.2 / 256)) (bytes, v)).1

def signed (n bits : Nat) : Int := if n ≥ Nat.pow 2 (bits - 1) then (n : Int) - Int.pow 2 bits else n

def decodeElement (t : ElementType) (raw : Nat) : Value :=
  match t with
  | .int8 => .int (signed raw 8)
  | .uint8 | .uint8Clamped | .uint16 | .uint32 => .nat raw
  | .int16 => .int (signed raw 16)
  | .int32 => .int (signed raw 32)
  | .bigInt64 => .bigint (signed raw 64)
  | .bigUint64 => .bigint raw
  | .float32 => .number (Float32.ofBits raw.toUInt32).toFloat
  | .float64 => .number (Float.ofBits raw.toUInt64)

/-- The whole part of a number, as an unsigned number of so many bits. -/
def wrapNumber (x : Float) (bits : Nat) : Nat :=
  if x.isNaN || x.isInf then 0
  else
    let b := Decimal.Binary.ofFloat x.abs
    let n := if b.q ≥ 0 then b.m * Nat.pow 2 b.q.toNat else b.m / Nat.pow 2 (-b.q).toNat
    let n := n % Nat.pow 2 bits
    if x < 0 then (Nat.pow 2 bits - n) % Nat.pow 2 bits else n

/-- Rounds to the nearest whole number, halves to the even one. -/
def clamp (x : Float) : Nat :=
  if !(x > 0) then 0
  else if x ≥ 255 then 255
  else
    let f := x.floor
    let d := x - f
    let n := f.toUInt64.toNat
    if d < 0.5 then n else if d > 0.5 then n + 1 else if n % 2 = 0 then n else n + 1

/-- The bytes of an element; the value has been converted already. -/
def encodeElement (t : ElementType) (v : Value) : Nat :=
  match v with
  | .number x =>
    match t with
    | .uint8Clamped => clamp x
    | .float32 => x.toFloat32.toBits.toNat
    | .float64 => x.toBits.toNat
    | t => wrapNumber x (8 * ElementType.bytes t)
  | .bigint i => (i % Int.pow 2 64).toNat
  | _ => 0

/-- An element of a typed array, if there is one. -/
def typedGet (t : ElementType) (buffer : Ref) (offset length i : Nat) : M (Option Value) := do
  if i ≥ length then return none
  match ← Heap.kindOf buffer with
  | .buffer bytes =>
    let n := ElementType.bytes t
    if offset + (i + 1) * n ≤ bytes.size then return some (decodeElement t (readBytes bytes (offset + i * n) n))
    else return none
  | _ => return none

def typedSet (t : ElementType) (buffer : Ref) (offset length i : Nat) (v : Value) : M Unit := do
  if i < length then
    let n := ElementType.bytes t
    let raw := encodeElement t v
    Heap.modifyObj buffer fun o =>
      match o.kind with
      | .buffer bytes =>
        if offset + (i + 1) * n ≤ bytes.size then { o with kind := .buffer (writeBytes bytes (offset + i * n) n raw) }
        else o
      | _ => o

/-! ## Own properties -/

def envSlot (env i : Nat) : M Value := look fun m => (m.envs.getD env default).slots.getD i .hole

def setEnvSlot (env i : Nat) (v : Value) : M Unit := update fun m =>
  { m with envs := m.envs.modify env fun e => { e with slots := e.slots.setIfInBounds i v } }

/-- The value of an export of a module. -/
def exportValue (target : Import) : M Value := do
  match target with
  | .slot env i => envSlot env i
  | .namespace m =>
    match ← look fun s => (s.modules.getD m default).namespaceObject with
    | some r => return .object r
    | none => return .undefined

/-- The exports of a module that can be reached, by name; they are kept on its namespace object as
hidden properties that hold where they lead. -/
def namespaceExport (r : Ref) (k : PropKey) : M (Option Import) := do
  let o ← Heap.getObj r
  match o.privates.get? k with
  | some (.data (.number e) _) => return some (.namespace e.toUInt64.toNat)
  | some (.accessor (.number e) (.number i) _ _) => return some (.slot e.toUInt64.toNat i.toUInt64.toNat)
  | _ => return none

/-- The element of a mapped arguments object that is a variable. -/
def mappedSlot (mapped : Array (Option Nat)) (k : PropKey) : Option Nat :=
  match k with
  | .index n => mapped.getD n none
  | _ => none

/-- A property of an object that is no proxy. -/
def ordinaryGetOwn (r : Ref) (k : PropKey) : M (Option Slot) := do
  let o ← Heap.getObj r
  match o.kind with
  | .array items length writable =>
    match k with
    | .index n =>
      if n < items.size then
        match items.getD n .hole with
        | .hole => return none
        | v => return some (.data v .all)
      else return o.props.get? k
    | k => if k == lengthKey then return some (.data (.nat length) ⟨writable, false, false⟩) else return o.props.get? k
  | .wrapper (.text w) =>
    match k with
    | .index n =>
      match w.unit? n with
      | some u => return some (.data (.text (.ofUnit u)) ⟨false, true, false⟩)
      | none => return o.props.get? k
    | k => if k == lengthKey then return some (.data (.nat w.size) .none) else return o.props.get? k
  | .typedArray t buffer offset length =>
    match k with
    | .index n => return (← typedGet t buffer offset length n).map fun v => .data v .all
    | k => return o.props.get? k
  | .arguments mapped env =>
    match o.props.get? k, mappedSlot mapped k with
    | some (.data _ a), some i => return some (.data (← envSlot env i) a)
    | s, _ => return s
  | .namespace _ =>
    match k with
    | .symbol _ => return o.props.get? k
    | k =>
      match ← namespaceExport r k with
      | none => return none
      | some target =>
        match ← exportValue target with
        | .hole => raise .reference (s!"{← keyText k} is not defined")
        | v => return some (.data v ⟨true, true, false⟩)
  | _ => return o.props.get? k

/-- Makes all elements of an array properties. -/
def spreadElements (r : Ref) : M Unit := Heap.modifyObj r fun o =>
  match o.kind with
  | .array items length writable =>
    let props := (items.foldl (fun (acc : Props × Nat) v =>
      (match v with
        | .hole => acc.1
        | v => acc.1.set (.index acc.2) (.data v .all), acc.2 + 1)) (Props.empty, 0)).1
    let props := o.props.entries.foldl (fun p (k, s) => p.set k s) props
    { o with props := props, kind := .array #[] length writable }
  | _ => o

def hasIndexProps (p : Props) : Bool := p.entries.any fun e =>
  match e.1 with
  | .index _ => true
  | _ => false

/-- How far beyond its end an array is still filled with gaps. -/
def gapLimit : Nat := 5000

/-- Sets an element of an array that may be set. -/
def putElement (r : Ref) (n : Nat) (v : Value) : M Unit := Heap.modifyObj r fun o =>
  match o with
  | ⟨proto, extensible, props, privates, .array items length writable⟩ =>
    let length := max length (n + 1)
    if n < items.size then ⟨proto, extensible, props, privates, .array (items.setIfInBounds n v) length writable⟩
    else if n ≤ items.size + gapLimit && (props.entries.isEmpty || !hasIndexProps props) then
      let items := (List.range (n - items.size)).foldl (fun a _ => a.push .hole) items
      ⟨proto, extensible, props, privates, .array (items.push v) length writable⟩
    else ⟨proto, extensible, props.set (.index n) (.data v .all), privates, .array items length writable⟩
  | o => o

/-- Shortens or lengthens an array; false if an element cannot be removed. -/
def setArrayLength (r : Ref) (n : Nat) : M Bool := do
  let o ← Heap.getObj r
  match o.kind with
  | .array items length writable =>
    -- the highest element that has to stay
    let kept := o.props.entries.foldl (fun acc e =>
      match e.1, e.2.isConfigurable with
      | .index i, false => if i ≥ n then max acc (i + 1) else acc
      | _, _ => acc) n
    Heap.modifyObj r fun o => { o with
      kind := .array (if kept < items.size then items.extract 0 kept else items) kept writable
      props := if kept ≥ length then o.props
        else o.props.entries.foldl (fun p e =>
          match e.1 with
          | .index i => if i ≥ kept then p.erase e.1 else p
          | _ => p) o.props }
    return kept == n
  | _ => return true

/-- Whether a value is a whole number from 0 up to 2³² − 1. -/
def arrayLength? : Value → Option Nat
  | .number x => if x ≥ 0 && x ≤ 4294967295 && x.floor == x then some x.toUInt64.toNat else none
  | _ => none

def invalidLength : M α := rangeError "invalid array length"

/-- Stores a property that may be stored. -/
def store (r : Ref) (k : PropKey) (s : Slot) : M Unit := do
  match ← Heap.kindOf r, k, s with
  | .array _ _ _, .index n, .data v a => if a == .all then putElement r n v else Heap.setSlot r k s
  | _, _, _ => Heap.setSlot r k s

/-! ### Short ways

Most assignments meet an object without anything special about it.  They are answered from a look
at the object that keeps no hold of it, so that it can be changed in place. -/

/-- How an assignment to an object's own property can be carried out at once. -/
inductive ShortWay where
  | none
  /-- An element of an array. -/
  | element (n : Nat)
  /-- The property at a position. -/
  | slot (i : Nat) (a : Attrs)

/-- Whether properties of objects of this kind are what they seem. -/
def isPlainKind : Kind → Bool
  | .array _ _ _ | .proxy _ _ _ _ | .wrapper _ | .arguments _ _ | .namespace _ | .typedArray _ _ _ _ => false
  | _ => true

def shortWay (o : Obj) (k : PropKey) : ShortWay :=
  match o.kind, k with
  | .array items length writable, .index n =>
    if n < items.size then (if (items.getD n .hole).isHole then .none else .element n)
    else if n == items.size && n == length && writable && o.extensible && o.props.entries.isEmpty &&
        o.proto == some Intrinsic.arrayPrototype then .element n
    else .none
  | kind, k =>
    if isPlainKind kind then
      match o.props.find? k with
      | some i =>
        match o.props.entries[i]? with
        | some (_, .data _ a) => if a.writable then .slot i a else .none
        | _ => .none
      | none => .none
    else .none

/-- Sets an element of an array, or adds one at its end. -/
def withElement (n : Nat) (v : Value) (o : Obj) : Obj :=
  match o with
  | ⟨proto, extensible, props, privates, .array items length writable⟩ =>
    if n < items.size then ⟨proto, extensible, props, privates, .array (items.setIfInBounds n v) length writable⟩
    else ⟨proto, extensible, props, privates, .array (items.push v) (max length (n + 1)) writable⟩
  | o => o

/-- An assignment that can be carried out at once; false if nothing has been done. -/
def setInHeap (heap : Array Obj) (r : Ref) (k : PropKey) (v : Value) : Bool × Array Obj :=
  match shortWay (heap.getD r default) k with
  | .none => (false, heap)
  | .element n => (true, heap.modify r (withElement n v))
  | .slot i a =>
    (true, heap.modify r fun o =>
      { o with props := { o.props with entries := o.props.entries.setIfInBounds i (k, .data v a) } })

def setShort (r : Ref) (k : PropKey) (v : Value) : M Bool := updateGet fun m =>
  let (done, heap) := setInHeap m.heap r k v
  (done, { m with heap := heap })

/-- Whether a new property can be added at once. -/
def canAdd (o : Obj) (k : PropKey) : Bool := isPlainKind o.kind && o.extensible && (o.props.find? k).isNone

def addInHeap (heap : Array Obj) (r : Ref) (k : PropKey) (v : Value) : Bool × Array Obj :=
  if canAdd (heap.getD r default) k then
    (true, heap.modify r fun o => { o with props := o.props.set k (.data v .all) })
  else (false, heap)

/-- Adds a new property that can be added at once; false if nothing has been done. -/
def addShort (r : Ref) (k : PropKey) (v : Value) : M Bool := updateGet fun m =>
  let (done, heap) := addInHeap m.heap r k v
  (done, { m with heap := heap })

/-- Whether nothing has been changed about an array but its items. -/
def isPlainArray (o : Obj) : Bool :=
  match o with
  | ⟨_, extensible, props, _, .array items length writable⟩ =>
    extensible && writable && props.entries.isEmpty && items.size == length
  | _ => false

def pushInHeap (heap : Array Obj) (r : Ref) (v : Value) : Bool × Array Obj :=
  if isPlainArray (heap.getD r default) then
    (true, heap.modify r fun o =>
      match o with
      | ⟨proto, extensible, props, privates, .array items length writable⟩ =>
        ⟨proto, extensible, props, privates, .array (items.push v) (length + 1) writable⟩
      | o => o)
  else (false, heap)

/-- Adds an item at the end of an array, if that can be done at once; false if nothing has been
done. -/
def pushShort (r : Ref) (v : Value) : M Bool := updateGet fun m =>
  let (done, heap) := pushInHeap m.heap r v
  (done, { m with heap := heap })

/-- Defines a property of an object that is no proxy. -/
def ordinaryDefine (r : Ref) (k : PropKey) (d : Desc) : M Bool := do
  match d with
  | ⟨some v, some true, _, _, some true, some true⟩ => if ← addShort r k v then return true
  | _ => pure ()
  let o ← Heap.getObj r
  let plain : M Bool := do
    match ← ordinaryGetOwn r k with
    | none =>
      if !o.extensible then return false
      store r k d.toSlot
      return true
    | some s =>
      if d.allowed s then
        store r k (d.apply s)
        return true
      else return false
  match o.kind with
  | .array items length writable =>
    match k with
    | .index n =>
      if n ≥ length && !writable then return false
      else if d.toSlot matches .data _ ⟨true, true, true⟩ then
        if ← plain then
          if n ≥ length then
            Heap.modifyObj r fun o =>
              match o.kind with
              | .array items l w => { o with kind := .array items (max l (n + 1)) w }
              | _ => o
          return true
        else return false
      else
        -- a change that keeps all attributes of an existing element needs no property
        let existing := n < items.size && !(items.getD n .hole).isHole
        let keeps := existing && !d.isAccessor && d.writable != some false && d.enumerable != some false &&
          d.configurable != some false
        if !keeps then spreadElements r
        if ← plain then
          Heap.modifyObj r fun o =>
            match o.kind with
            | .array items l w => { o with kind := .array items (max l (n + 1)) w }
            | _ => o
          return true
        else return false
    | k =>
      if k == lengthKey then
        if d.isAccessor || d.configurable == some true || d.enumerable == some true then return false
        else
          match d.value with
          | none =>
            if d.writable == some true && !writable then return false
            else
              if d.writable == some false then Heap.setKind r (.array items length false)
              return true
          | some v =>
            match arrayLength? v with
            | none => invalidLength
            | some n =>
              if n == length then
                if d.writable == some true && !writable then return false
                if d.writable == some false then Heap.setKind r (.array items length false)
                return true
              else if !writable then return false
              else
                let done ← setArrayLength r n
                if d.writable == some false then
                  Heap.modifyObj r fun o =>
                    match o.kind with
                    | .array items l _ => { o with kind := .array items l false }
                    | _ => o
                return done
      else plain
  | .arguments mapped env =>
    match mappedSlot mapped k with
    | none => plain
    | some i =>
      -- the current value counts
      let current ← envSlot env i
      let d' := if d.value.isNone && d.writable == some false then { d with value := some current } else d
      match ← ordinaryGetOwn r k with
      | some s =>
        if d'.allowed s then
          Heap.setSlot r k (d'.apply s)
          if let some v := d.value then setEnvSlot env i v
          if d.isAccessor || d.writable == some false then
            match k with
            | .index n => Heap.setKind r (.arguments (mapped.setIfInBounds n none) env)
            | _ => pure ()
          return true
        else return false
      | none => plain
  | .typedArray t buffer offset length =>
    match k with
    | .index n =>
      if n ≥ length || d.configurable == some false || d.enumerable == some false || d.isAccessor ||
          d.writable == some false then return false
      else
        if let some v := d.value then typedSet t buffer offset length n v
        return true
    | _ => plain
  | .namespace _ =>
    match k with
    | .symbol _ => plain
    | _ =>
      match ← ordinaryGetOwn r k with
      | none => return false
      | some (.data v _) =>
        return !(d.configurable == some true || d.enumerable == some false || d.isAccessor ||
          d.writable == some false) && d.value.all (·.identical v)
      | some _ => return false
  | _ => plain

def ordinaryDelete (r : Ref) (k : PropKey) : M Bool := do
  match ← ordinaryGetOwn r k with
  | none => return true
  | some s =>
    if !s.isConfigurable then return false
    else
      match ← Heap.kindOf r, k with
      | .array items length writable, .index n =>
        if n < items.size then Heap.setKind r (.array (items.setIfInBounds n .hole) length writable)
        else Heap.modifyObj r fun o => { o with props := o.props.erase k }
        return true
      | .typedArray _ _ _ _, .index _ => return false
      | .namespace _, .text _ | .namespace _, .index _ => return false
      | .arguments mapped env, .index n =>
        Heap.modifyObj r fun o => { o with
          props := o.props.erase k, kind := .arguments (mapped.setIfInBounds n none) env }
        return true
      | _, _ =>
        Heap.modifyObj r fun o => { o with props := o.props.erase k }
        return true

def indexOrder (a b : Nat) : Bool := a ≤ b

/-- Keys in order: indices from the least on, then texts, then symbols. -/
def sortKeys (before : List PropKey) (entries : Array (PropKey × Slot)) : List PropKey :=
  let indices := entries.foldl (fun acc e => match e.1 with | .index n => n :: acc | _ => acc) []
  let texts := entries.foldl (fun acc e => match e.1 with | .text w => .text w :: acc | _ => acc) ([] : List PropKey)
  let symbols := entries.foldl (fun acc e => match e.1 with | .symbol n => .symbol n :: acc | _ => acc) ([] : List PropKey)
  before ++ ((indices.mergeSort indexOrder).map PropKey.index) ++ texts.reverse ++ symbols.reverse

def ordinaryKeys (r : Ref) : M (List PropKey) := do
  let o ← Heap.getObj r
  let entries := o.props.entries
  match o.kind with
  | .array items _ _ =>
    let present := (List.range items.size).filter fun i => !(items.getD i .hole).isHole
    let keys := sortKeys (present.map .index) (entries.filter fun e => match e.1 with | .index _ => true | _ => false)
    return keys ++ [lengthKey] ++ sortKeys [] (entries.filter fun e => match e.1 with | .index _ => false | _ => true)
  | .wrapper (.text w) =>
    let before := (List.range w.size).map PropKey.index
    let keys := sortKeys before (entries.filter fun e => match e.1 with | .index _ => true | _ => false)
    return keys ++ [lengthKey] ++ sortKeys [] (entries.filter fun e => match e.1 with | .index _ => false | _ => true)
  | .typedArray _ _ _ length => return sortKeys ((List.range length).map .index) entries
  | .namespace _ => return (o.privates.entries.toList.map (·.1)) ++ sortKeys [] entries
  | _ => return sortKeys [] entries

/-! ## Proxies -/

/-- The target and handler of a proxy that has not been revoked. -/
def proxyParts (target handler : Value) (trap : String) : M (Ref × Ref) := do
  match target, handler with
  | .object t, .object h => return (t, h)
  | _, _ => typeError s!"Proxy object has been revoked: {trap}"

def trapOf (o : ObjectOps) (h : Ref) (name : String) : M (Option Value) := do
  match ← o.get h (.ofString name) (.object h) with
  | .undefined => return none
  | .null => return none
  | v => return some v

def protoValue : Option Ref → Value
  | some r => .object r
  | none => .null

def newArray (items : Array Value) : M Value := do
  return .object (← Heap.allocKind (some Intrinsic.arrayPrototype) (.array items items.size true))

/-- A description as an object. -/
def ofDesc (d : Desc) : M Value := do
  let r ← Heap.allocKind (some Intrinsic.objectPrototype) .ordinary
  let set (name : String) (v : Option Value) : M Unit := do
    match v with
    | some v => Heap.setData r (.ofString name) v
    | none => pure ()
  set "value" d.value
  set "writable" (d.writable.map .bool)
  set "get" d.get
  set "set" d.set
  set "enumerable" (d.enumerable.map .bool)
  set "configurable" (d.configurable.map .bool)
  return .object r

def isCallable (v : Value) : M Bool := do
  match v with
  | .object r =>
    match ← Heap.kindOf r with
    | .closure _ | .native _ _ _ | .bound _ _ _ => return true
    | .proxy _ _ callable _ => return callable
    | _ => return false
  | _ => return false

/-- The description in an object. -/
def toDesc (o : ObjectOps) (v : Value) : M Desc := do
  match v with
  | .object r =>
    let field (name : String) : M (Option Value) := do
      if ← o.has r (.ofString name) then return some (← o.get r (.ofString name) v) else return none
    let enumerable ← field "enumerable"
    let configurable ← field "configurable"
    let value ← field "value"
    let writable ← field "writable"
    let get ← field "get"
    if let some g := get then
      if !(g.isUndefined || (← isCallable g)) then typeError "Property descriptor getter must be callable"
    let set ← field "set"
    if let some g := set then
      if !(g.isUndefined || (← isCallable g)) then typeError "Property descriptor setter must be callable"
    if (get.isSome || set.isSome) && (value.isSome || writable.isSome) then
      typeError "Invalid property descriptor. Cannot both specify accessors and a value or writable attribute"
    return ⟨value, writable.map (·.truthy), get, set, enumerable.map (·.truthy), configurable.map (·.truthy)⟩
  | _ => typeError "Cannot construct property descriptor from value"

/-! ## All objects -/

def getOwnWith (ops : Unit → ObjectOps) (r : Ref) (k : PropKey) : M (Option Slot) := do
  match ← Heap.kindOf r with
  | .proxy target handler _ _ =>
    let o := ops ()
    let (t, h) ← proxyParts target handler "getOwnPropertyDescriptor"
    match ← trapOf o h "getOwnPropertyDescriptor" with
    | none => o.getOwn t k
    | some f =>
      match ← call f (.object h) #[.object t, k.value] with
      | .undefined =>
        match ← o.getOwn t k with
        | none => return none
        | some s =>
          if !s.isConfigurable then typeError "getOwnPropertyDescriptor trap result cannot be undefined"
          return none
      | .object d => return some (← toDesc o (.object d)).toSlot
      | _ => typeError "getOwnPropertyDescriptor trap result must be an object or undefined"
  | _ => ordinaryGetOwn r k

def defineWith (ops : Unit → ObjectOps) (r : Ref) (k : PropKey) (d : Desc) : M Bool := do
  match ← Heap.kindOf r with
  | .proxy target handler _ _ =>
    let o := ops ()
    let (t, h) ← proxyParts target handler "defineProperty"
    match ← trapOf o h "defineProperty" with
    | none => o.define t k d
    | some f => return (← call f (.object h) #[.object t, k.value, ← ofDesc d]).truthy
  | _ => ordinaryDefine r k d

def getProtoWith (ops : Unit → ObjectOps) (r : Ref) : M (Option Ref) := do
  match ← Heap.kindOf r with
  | .proxy target handler _ _ =>
    let o := ops ()
    let (t, h) ← proxyParts target handler "getPrototypeOf"
    match ← trapOf o h "getPrototypeOf" with
    | none => o.getProto t
    | some f =>
      match ← call f (.object h) #[.object t] with
      | .object p => return some p
      | .null => return none
      | _ => typeError "Proxy trap result is neither an object nor null"
  | _ => return (← Heap.getObj r).proto

/-- Whether an object is on a chain of prototypes. -/
def onChain (target : Ref) : Nat → Option Ref → M Bool
  | 0, _ => return false
  | _, none => return false
  | n + 1, some r => do
    if r == target then return true
    let o ← Heap.getObj r
    match o.kind with
    | .proxy _ _ _ _ => return false
    | _ => onChain target n o.proto

def setProtoWith (ops : Unit → ObjectOps) (r : Ref) (p : Option Ref) : M Bool := do
  let obj ← Heap.getObj r
  match obj.kind with
  | .proxy target handler _ _ =>
    let o := ops ()
    let (t, h) ← proxyParts target handler "setPrototypeOf"
    match ← trapOf o h "setPrototypeOf" with
    | none => o.setProto t p
    | some f => return (← call f (.object h) #[.object t, protoValue p]).truthy
  | .namespace _ => return p.isNone
  | _ =>
    if obj.proto == p then return true
    else if !obj.extensible || r == Intrinsic.objectPrototype then return false
    else if ← onChain r 100000 p then return false
    else
      Heap.modifyObj r fun o => { o with proto := p }
      return true

def isExtensibleWith (ops : Unit → ObjectOps) (r : Ref) : M Bool := do
  let obj ← Heap.getObj r
  match obj.kind with
  | .proxy target handler _ _ =>
    let o := ops ()
    let (t, h) ← proxyParts target handler "isExtensible"
    match ← trapOf o h "isExtensible" with
    | none => o.isExtensible t
    | some f => return (← call f (.object h) #[.object t]).truthy
  | .namespace _ => return false
  | _ => return obj.extensible

def preventExtensionsWith (ops : Unit → ObjectOps) (r : Ref) : M Bool := do
  match ← Heap.kindOf r with
  | .proxy target handler _ _ =>
    let o := ops ()
    let (t, h) ← proxyParts target handler "preventExtensions"
    match ← trapOf o h "preventExtensions" with
    | none => o.preventExtensions t
    | some f => return (← call f (.object h) #[.object t]).truthy
  | _ =>
    Heap.modifyObj r fun o => { o with extensible := false }
    return true

/-- Goes up the chain of prototypes until the operation has a result. -/
def hasFrom (ops : Unit → ObjectOps) (k : PropKey) : Nat → Ref → M Bool
  | 0, _ => exhausted
  | n + 1, r => do
    match ← Heap.kindOf r with
    | .proxy target handler _ _ =>
      let o := ops ()
      let (t, h) ← proxyParts target handler "has"
      match ← trapOf o h "has" with
      | none => o.has t k
      | some f => return (← call f (.object h) #[.object t, k.value]).truthy
    | .namespace _ =>
      match k with
      | .symbol _ => return (← ordinaryGetOwn r k).isSome
      | k => return (← namespaceExport r k).isSome
    | _ =>
      if (← ordinaryGetOwn r k).isSome then return true
      else
        match ← look fun m => (m.heap.getD r default).proto with
        | some p => hasFrom ops k n p
        | none => return false

/-- The longest chain of prototypes that is followed. -/
def chainLimit : Nat := 1000000

def getFrom (ops : Unit → ObjectOps) (k : PropKey) (receiver : Value) : Nat → Ref → M Value
  | 0, _ => exhausted
  | n + 1, r => do
    match ← Heap.kindOf r with
    | .proxy target handler _ _ =>
      let o := ops ()
      let (t, h) ← proxyParts target handler "get"
      match ← trapOf o h "get" with
      | none => o.get t k receiver
      | some f =>
        let v ← call f (.object h) #[.object t, k.value, receiver]
        match ← o.getOwn t k with
        | some (.data w ⟨false, _, false⟩) =>
          if !v.identical w then typeError "Proxy trap returned unexpected value for data descriptor"
        | some (.accessor .undefined _ _ false) =>
          if !v.isUndefined then typeError "Proxy trap returned unexpected value for accessor descriptor"
        | _ => pure ()
        return v
    | _ =>
      match ← ordinaryGetOwn r k with
      | some (.data v _) => return v
      | some (.accessor g _ _ _) => if g.isUndefined then return .undefined else call g receiver #[]
      | none =>
        match ← look fun m => (m.heap.getD r default).proto with
        | some p => getFrom ops k receiver n p
        | none => return .undefined

/-- The end of an assignment: the receiver gets the value as its own property. -/
def setOnReceiver (ops : Unit → ObjectOps) (k : PropKey) (v receiver : Value) : M Bool := do
  match receiver with
  | .object rr =>
    let (getOwn, define) ← do
      match ← Heap.kindOf rr with
      | .proxy _ _ _ _ =>
        let o := ops ()
        pure (o.getOwn rr k, o.define rr k)
      | _ => pure (ordinaryGetOwn rr k, ordinaryDefine rr k)
    match ← getOwn with
    | some (.accessor _ _ _ _) => return false
    | some (.data _ a) =>
      if !a.writable then return false
      else define { Desc.empty with value := some v }
    | none => define (.data v .all)
  | _ => return false

def setFrom (ops : Unit → ObjectOps) (k : PropKey) (v receiver : Value) : Nat → Ref → M Bool
  | 0, _ => exhausted
  | n + 1, r => do
    match ← Heap.kindOf r with
    | .proxy target handler _ _ =>
      let o := ops ()
      let (t, h) ← proxyParts target handler "set"
      match ← trapOf o h "set" with
      | none => o.set t k v receiver
      | some f =>
        if !(← call f (.object h) #[.object t, k.value, v, receiver]).truthy then return false
        match ← o.getOwn t k with
        | some (.data w ⟨false, _, false⟩) =>
          if !v.identical w then typeError "Proxy trap set unexpected value for data descriptor"
        | some (.accessor _ .undefined _ false) => typeError "Proxy trap set unexpected value for accessor descriptor"
        | _ => pure ()
        return true
    | .namespace _ => return false
    | .typedArray _ _ _ length =>
      match k with
      | .index i => if i < length then setOnReceiver ops k v receiver else return true
      | _ => ordinary r n
    | _ => ordinary r n
where
  ordinary (r : Ref) (n : Nat) : M Bool := do
    match ← ordinaryGetOwn r k with
    | some (.data _ a) =>
      if !a.writable then return false else setOnReceiver ops k v receiver
    | some (.accessor _ s _ _) =>
      if s.isUndefined then return false
      else
        discard (call s receiver #[v])
        return true
    | none =>
      match ← look fun m => (m.heap.getD r default).proto with
      | some p => setFrom ops k v receiver n p
      | none => setOnReceiver ops k v receiver

def deleteWith (ops : Unit → ObjectOps) (r : Ref) (k : PropKey) : M Bool := do
  match ← Heap.kindOf r with
  | .proxy target handler _ _ =>
    let o := ops ()
    let (t, h) ← proxyParts target handler "deleteProperty"
    match ← trapOf o h "deleteProperty" with
    | none => o.delete t k
    | some f => return (← call f (.object h) #[.object t, k.value]).truthy
  | .namespace _ =>
    match k with
    | .symbol _ => ordinaryDelete r k
    | _ => return (← namespaceExport r k).isNone
  | _ => ordinaryDelete r k

/-- The keys in the array that a trap has given. -/
def trapKeys (o : ObjectOps) (r : Ref) : Nat → Nat → List PropKey → M (List PropKey)
  | 0, _, acc => return acc.reverse
  | n + 1, i, acc => do
    match ← o.get r (.index i) (.object r) with
    | .text w => trapKeys o r n (i + 1) (.ofWide w :: acc)
    | .symbol id => trapKeys o r n (i + 1) (.symbol id :: acc)
    | _ => typeError "Proxy trap result is not a list of property keys"

def keysWith (ops : Unit → ObjectOps) (r : Ref) : M (List PropKey) := do
  match ← Heap.kindOf r with
  | .proxy target handler _ _ =>
    let o := ops ()
    let (t, h) ← proxyParts target handler "ownKeys"
    match ← trapOf o h "ownKeys" with
    | none => o.keys t
    | some f =>
      match ← call f (.object h) #[.object t] with
      | .object a =>
        match ← o.get a lengthKey (.object a) with
        | .number x => trapKeys o a x.toUInt64.toNat 0 []
        | _ => return []
      | _ => typeError "cannot create list from non-object"
  | _ => ordinaryKeys r

def setWith (ops : Unit → ObjectOps) (r : Ref) (k : PropKey) (v receiver : Value) : M Bool := do
  let own := match receiver with
    | .object rr => rr == r
    | _ => false
  if own && (← setShort r k v) then return true
  setFrom ops k v receiver chainLimit r

/-- The operations of objects, handing on so often at most. -/
def ops : Nat → ObjectOps
  | 0 => ⟨fun _ _ => exhausted, fun _ _ _ => exhausted, fun _ _ => exhausted, fun _ _ _ => exhausted,
      fun _ _ _ _ => exhausted, fun _ _ => exhausted, fun _ => exhausted, fun _ => exhausted, fun _ _ => exhausted,
      fun _ => exhausted, fun _ => exhausted⟩
  | n + 1 => {
      getOwn := fun r k => getOwnWith (fun _ => ops n) r k
      define := fun r k d => defineWith (fun _ => ops n) r k d
      has := fun r k => hasFrom (fun _ => ops n) k chainLimit r
      get := fun r k v => getFrom (fun _ => ops n) k v chainLimit r
      set := fun r k v receiver => setWith (fun _ => ops n) r k v receiver
      delete := fun r k => deleteWith (fun _ => ops n) r k
      keys := fun r => keysWith (fun _ => ops n) r
      getProto := fun r => getProtoWith (fun _ => ops n) r
      setProto := fun r p => setProtoWith (fun _ => ops n) r p
      isExtensible := fun r => isExtensibleWith (fun _ => ops n) r
      preventExtensions := fun r => preventExtensionsWith (fun _ => ops n) r }

def outermost : Unit → ObjectOps := fun _ => ops 1000

def getOwn (r : Ref) (k : PropKey) : M (Option Slot) := getOwnWith outermost r k
def define (r : Ref) (k : PropKey) (d : Desc) : M Bool := defineWith outermost r k d
def has (r : Ref) (k : PropKey) : M Bool := hasFrom outermost k chainLimit r
def get (r : Ref) (k : PropKey) : M Value := getFrom outermost k (.object r) chainLimit r
def getFor (r : Ref) (k : PropKey) (receiver : Value) : M Value := getFrom outermost k receiver chainLimit r
def setFor (r : Ref) (k : PropKey) (v receiver : Value) : M Bool := setWith outermost r k v receiver
def delete (r : Ref) (k : PropKey) : M Bool := deleteWith outermost r k
def keys (r : Ref) : M (List PropKey) := keysWith outermost r
def getProto (r : Ref) : M (Option Ref) := getProtoWith outermost r
def setProto (r : Ref) (p : Option Ref) : M Bool := setProtoWith outermost r p
def isExtensible (r : Ref) : M Bool := isExtensibleWith outermost r
def preventExtensions (r : Ref) : M Bool := preventExtensionsWith outermost r
def descOf (v : Value) : M Desc := toDesc (ops 1000) v

/-- A property by its name. -/
def getNamed (r : Ref) (name : String) : M Value := get r (.ofString name)

/-- Sets a property, or fails. -/
def put (r : Ref) (k : PropKey) (v : Value) : M Unit := do
  if !(← setFor r k v (.object r)) then typeError s!"cannot set non-writable property: {← keyText k}"

def defineOrThrow (r : Ref) (k : PropKey) (d : Desc) : M Unit := do
  if !(← define r k d) then typeError s!"cannot redefine property: {← keyText k}"

/-- Makes a property as assignment would, or fails. -/
def create (r : Ref) (k : PropKey) (v : Value) : M Unit := defineOrThrow r k (.data v .all)

def deleteOrThrow (r : Ref) (k : PropKey) : M Unit := do
  if !(← delete r k) then typeError "cannot delete property"

def hasOwn (r : Ref) (k : PropKey) : M Bool := return (← getOwn r k).isSome

/-! ## Values of all kinds -/

/-- The object through which a value's properties are found. -/
def baseOf (v : Value) : M Ref := do
  match v with
  | .object r => return r
  | .text _ => return Intrinsic.stringPrototype
  | .number _ => return Intrinsic.numberPrototype
  | .bool _ => return Intrinsic.booleanPrototype
  | .symbol _ => return Intrinsic.symbolPrototype
  | .bigint _ => return Intrinsic.bigintPrototype
  | _ => typeError "cannot convert 'null' or 'undefined' to object"

/-- A property of any value. -/
def getV (v : Value) (k : PropKey) : M Value := do
  match v with
  | .object r => get r k
  | .text w =>
    match k with
    | .index n =>
      match w.unit? n with
      | some u => return .text (.ofUnit u)
      | none => getFor Intrinsic.stringPrototype k v
    | k => if k == lengthKey then return .nat w.size else getFor Intrinsic.stringPrototype k v
  | v => getFor (← baseOf v) k v

/-- A method, or nothing if it is undefined or null. -/
def getMethod (v : Value) (k : PropKey) : M (Option Value) := do
  match ← getV v k with
  | .undefined => return none
  | .null => return none
  | f => if ← isCallable f then return some f else typeError "value returned for property of object is not a function"

/-- Assigns to a property of any value; false if that is refused. -/
def setV (v : Value) (k : PropKey) (value : Value) : M Bool := do
  setFor (← baseOf v) k value v

def invoke (v : Value) (k : PropKey) (args : Array Value) : M Value := do
  call (← getV v k) v args

def isConstructor (v : Value) : M Bool := do
  match v with
  | .object r =>
    match ← Heap.kindOf r with
    | .closure c => return c.code.isConstructor
    | .native _ isConstructor _ => return isConstructor
    | .proxy _ _ _ isConstructor => return isConstructor
    | .bound t _ _ => boundIsConstructor 1000 t
    | _ => return false
  | _ => return false
where
  boundIsConstructor : Nat → Value → M Bool
    | 0, _ => return false
    | n + 1, v => do
      match v with
      | .object r =>
        match ← Heap.kindOf r with
        | .closure c => return c.code.isConstructor
        | .native _ isConstructor _ => return isConstructor
        | .proxy _ _ _ isConstructor => return isConstructor
        | .bound t _ _ => boundIsConstructor n t
        | _ => return false
      | _ => return false

/-- Whether a value is an array or stands for one. -/
def isArray : Nat → Value → M Bool
  | 0, _ => return false
  | n + 1, v => do
    match v with
    | .object r =>
      match ← Heap.kindOf r with
      | .array _ _ _ => return true
      | .proxy (.object t) _ _ _ => isArray n (.object t)
      | .proxy _ _ _ _ => typeError "Proxy object has been revoked: isArray"
      | _ => return false
    | _ => return false

def newObject : M Ref := Heap.allocKind (some Intrinsic.objectPrototype) .ordinary

end Object

end Playpen.Engine
