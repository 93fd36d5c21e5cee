import Playpen.Engine.Builtin.Array

/-!
# Built-in functions: bytes

A buffer holds bytes and nothing else.  A view reads numbers out of a buffer and writes them into it,
in either order of bytes.
-/

namespace Playpen.Engine

open M

namespace Builtin.Bytes

/-- The element types, in the order of their constructors. -/
def elementTypes : List (ElementType × String) := [
  (.int8, "Int8"), (.uint8, "Uint8"), (.uint8Clamped, "Uint8Clamped"), (.int16, "Int16"), (.uint16, "Uint16"),
  (.int32, "Int32"), (.uint32, "Uint32"), (.bigInt64, "BigInt64"), (.bigUint64, "BigUint64"),
  (.float32, "Float32"), (.float64, "Float64")]

def isBigint : ElementType → Bool
  | .bigInt64 | .bigUint64 => true
  | _ => false

/-- A value as an element is stored. -/
def toElement (t : ElementType) (v : Value) : M Value := do
  if isBigint t then return .bigint (← toBigInt v) else return .number (← toNumber v)

/-! ## Buffers -/

/-- The most bytes a buffer may have. -/
def largest : Nat := 1610612736

def newBuffer (proto : Ref) (n : Nat) : M Ref := do
  if n > largest then rangeError "cannot allocate a buffer that exceeds the maximum buffer size"
  Heap.allocKind (some proto) (.buffer ⟨Array.replicate n 0⟩)

/-- The bytes of a buffer. -/
def bytesOf (r : Ref) : M ByteArray := do
  match ← Heap.kindOf r with
  | .buffer bytes => return bytes
  | _ => return .empty

def thisBuffer (i : Invocation) (name : String) : M (Ref × ByteArray) := do
  match i.this with
  | .object r =>
    match ← Heap.kindOf r with
    | .buffer bytes => return (r, bytes)
    | _ => typeError s!"ArrayBuffer.{name} called with invalid value"
  | _ => typeError s!"ArrayBuffer.{name} called with invalid \x60this\x60"

def construct : Behaviour := fun i => do
  if !i.isConstruct then typeError "ArrayBuffer.constructor called with undefined new target"
  let n ← toIndex (i.arg 0)
  return .object (← newBuffer (← i.proto Intrinsic.bufferPrototype) n)

def isView : Behaviour := fun i => do
  match i.arg 0 with
  | .object r =>
    match ← Heap.kindOf r with
    | .typedArray _ _ _ _ => return .bool true
    | .dataView _ _ _ => return .bool true
    | _ => return .bool false
  | _ => return .bool false

def slice : Behaviour := fun i => do
  let (_, bytes) ← thisBuffer i "slice"
  let start ← Arrays.relative (i.arg 0) bytes.size 0
  let stop ← Arrays.relative (i.arg 1) bytes.size bytes.size
  let r ← newBuffer Intrinsic.bufferPrototype (stop - start)
  Heap.setKind r (.buffer (bytes.extract start (max start stop)))
  return .object r

def build : Build Unit := do
  let c := Intrinsic.buffer
  let p := Intrinsic.bufferPrototype
  Build.constructor c p "ArrayBuffer" 1 construct
  Build.species c
  Build.method c "isView" 1 isView
  Build.getter p "byteLength" fun i => return .nat (← thisBuffer i "byteLength").2.size
  Build.getter p "maxByteLength" fun i => return .nat (← thisBuffer i "maxByteLength").2.size
  Build.getter p "resizable" fun i => do
    discard (thisBuffer i "resizable")
    return .bool false
  Build.getter p "detached" fun i => do
    discard (thisBuffer i "detached")
    return .bool false
  Build.method p "slice" 2 slice
  Build.tag p "ArrayBuffer"

/-! ## Views -/

/-- The buffer of a view, where the view begins in it, and how long it is. -/
def thisView (i : Invocation) : M (Ref × Nat × Nat) := do
  match i.this with
  | .object r =>
    match ← Heap.kindOf r with
    | .dataView buffer offset length => return (buffer, offset, length)
    | _ => typeError "\x60this\x60 is not a DataView"
  | _ => typeError "\x60this\x60 is not a DataView"

def constructView : Behaviour := fun i => do
  if !i.isConstruct then typeError "cannot call \x60DataView\x60 constructor without \x60new\x60"
  let buffer ← match i.arg 0 with
    | .object r =>
      match ← Heap.kindOf r with
      | .buffer _ => pure r
      | _ => typeError "buffer must be an ArrayBuffer"
    | _ => typeError "buffer must be an ArrayBuffer"
  let offset ← toIndex (i.arg 1)
  let size := (← bytesOf buffer).size
  if offset > size then rangeError "Start offset is outside the bounds of the buffer"
  let length ← match i.arg 2 with
    | .undefined => pure (size - offset)
    | v => toIndex v
  if offset + length > size then rangeError "Invalid data view length"
  i.create Intrinsic.dataViewPrototype (.dataView buffer offset length)

def outside : M α := rangeError "Offset is outside the bounds of the DataView"

/-- Reverses some bytes. -/
def reverseBytes (n v : Nat) : Nat :=
  ((List.range n).foldl (fun (acc : Nat × Nat) _ => (acc.1 * 256 + acc.2 % 256, acc.2 / 256)) (0, v)).1

def getElement (t : ElementType) : Behaviour := fun i => do
  let (buffer, offset, length) ← thisView i
  let at_ ← toIndex (i.arg 0)
  let n := Object.ElementType.bytes t
  if at_ + n > length then outside
  let raw := Object.readBytes (← bytesOf buffer) (offset + at_) n
  return Object.decodeElement t (if (i.arg 1).truthy then raw else reverseBytes n raw)

def setElement (t : ElementType) : Behaviour := fun i => do
  let (buffer, offset, length) ← thisView i
  let at_ ← toIndex (i.arg 0)
  let v ← toElement t (i.arg 1)
  let n := Object.ElementType.bytes t
  if at_ + n > length then outside
  let raw := Object.encodeElement t v
  let bytes ← bytesOf buffer
  let raw := if (i.arg 2).truthy then raw else reverseBytes n raw
  Heap.setKind buffer (.buffer (Object.writeBytes bytes (offset + at_) n raw))
  return .undefined

def buildView : Build Unit := do
  let c := Intrinsic.dataView
  let p := Intrinsic.dataViewPrototype
  Build.constructor c p "DataView" 1 constructView
  Build.getter p "buffer" fun i => return .object (← thisView i).1
  Build.getter p "byteLength" fun i => return .nat (← thisView i).2.2
  Build.getter p "byteOffset" fun i => return .nat (← thisView i).2.1
  elementTypes.forM fun (t, name) => do
    if t != .uint8Clamped then
      Build.method p ("get" ++ name) 1 (getElement t)
      Build.method p ("set" ++ name) 2 (setElement t)
  Build.tag p "DataView"

end Builtin.Bytes

end Playpen.Engine
