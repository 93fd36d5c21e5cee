import Playpen.Decimal.Numeral
import Playpen.Engine.Property

/-!
# Conversions and operators
-/

namespace Playpen.Engine

open M
open Playpen.Text (Wide)

/-! ## Errors as values -/

/-- A new error object. -/
def makeErrorWith (proto : Ref) (message : String) : M Value := do
  let r ← Heap.allocKind (some proto) .error
  Heap.setSlot r (.ofString "message") (.data (.str message) .hidden)
  return .object r

def makeError (k : ErrorKind) (message : String) : M Value := makeErrorWith (Intrinsic.errorPrototypeOf k) message

/-- What a script catches; limits cannot be caught. -/
def Thrown.toValue? (e : Thrown) : M (Option Value) := do
  match e with
  | .value v => return some v
  | .raised k message _ => return some (← makeError k message)
  | .limit _ _ => return none

/-- Runs a computation; what a script may catch becomes a value. -/
def catching (x : M α) : M (Except Value α) := do
  match ← attempt x with
  | .ok a => return .ok a
  | .error e =>
    match ← e.toValue? with
    | some v => return .error v
    | none => fail e

/-! ## Types -/

def typeOf (v : Value) : M String := do
  match v with
  | .undefined => return "undefined"
  | .null => return "object"
  | .bool _ => return "boolean"
  | .number _ => return "number"
  | .text _ => return "string"
  | .symbol _ => return "symbol"
  | .bigint _ => return "bigint"
  | .object _ => return if ← Object.isCallable v then "function" else "object"
  | .hole => return "undefined"

/-! ## Numbers -/

namespace Num

def infinity : Float := 1.0 / 0.0

def isFinite (x : Float) : Bool := !(x.isNaN || x.isInf)

/-- The whole part. -/
def trunc (x : Float) : Float := if x < 0 then x.ceil else x.floor

/-- The whole part of a finite number. -/
def toInt (x : Float) : Int :=
  let b := Decimal.Binary.ofFloat x.abs
  let n : Int := if b.q ≥ 0 then b.m * Int.pow 2 b.q.toNat else b.m / Int.pow 2 (-b.q).toNat
  if x < 0 then -n else n

/-- The bits of a number as an operand of bit operations. -/
def bits (x : Float) : UInt32 :=
  -- small numbers take the short way
  if x ≥ 0 && x ≤ 4294967295 then x.toUInt32
  else if x < 0 && x ≥ -2147483648 then (0 : UInt32) - (-x).toUInt32
  else UInt32.ofNat (Object.wrapNumber x 32)

def ofBits (n : UInt32) : Float := if n < 0x80000000 then n.toFloat else n.toFloat - 4294967296.0

/-- The nearest double of a fraction, halves to the even one. -/
def ofInt (i : Int) : Float :=
  if i.natAbs < 9007199254740992 then Float.ofInt i
  else
    let x := Decimal.toFloat i.natAbs 0
    if i < 0 then -x else x

/-- Whether a number is held as a whole number of 32 bits. -/
def isSmallInt (x : Float) : Bool :=
  x.floor == x && x.abs ≤ 2147483648.0 && x < 2147483648.0 && !(x == 0 && Decimal.isNegative x)

/-- The remainder, with the sign of the dividend. -/
def remainder (x y : Float) : Float :=
  if x.isNaN || y.isNaN || x.isInf || y == 0 then Value.nan
  else if y.isInf || x == 0 then x
  else
    let a := Decimal.Binary.ofFloat x.abs
    let b := Decimal.Binary.ofFloat y.abs
    let q := min a.q b.q
    let n := a.m * Nat.pow 2 (a.q - q).toNat
    let d := b.m * Nat.pow 2 (b.q - q).toNat
    let r := n % d
    -- the remainder is a double: its bits are among those of the operands
    let v := Float.scaleB r.toFloat q
    if Decimal.isNegative x then -v else v

/-- Powers with whole exponents, by squaring. -/
def powInt : Nat → Float → Nat → Float → Float
  | 0, _, _, r => r
  | fuel + 1, a, b, r =>
    let r := if b % 2 = 1 then r * a else r
    if b / 2 = 0 then r else powInt fuel (a * a) (b / 2) r

def power (x y : Float) : Float :=
  if y.isNaN then Value.nan
  else if y == 0 then 1
  else if x.abs == 1 && y.isInf then Value.nan
  else if isSmallInt x && isSmallInt y then
    if y < 0 then 1.0 / powInt 40 x (-y).toUInt64.toNat 1
    else
      let exact := Int.pow (toInt x) y.toUInt64.toNat
      if y ≤ 64 && exact.natAbs < 2147483648 then ofInt exact else powInt 40 x y.toUInt64.toNat 1
  else Float.pow x y

/-- Compares a whole number with a double that is a number. -/
def compareInt (i : Int) (x : Float) : Ordering :=
  if x.isInf then (if x > 0 then .lt else .gt)
  else
    let n := toInt x
    if i < n then .lt
    else if i > n then .gt
    else
      let t := trunc x
      if x > t then .lt else if x < t then .gt else .eq

end Num

/-! ## Primitive values -/

inductive Hint where
  | default | number | string
  deriving DecidableEq

def Hint.name : Hint → String
  | .default => "default"
  | .number => "number"
  | .string => "string"

def tryMethods (r : Ref) : List String → M Value
  | [] => typeError "cannot convert object to primitive value"
  | name :: rest => do
    let f ← Object.getNamed r name
    if ← Object.isCallable f then
      match ← call f (.object r) #[] with
      | .object _ => tryMethods r rest
      | v => return v
    else tryMethods r rest

def ordinaryToPrimitive (r : Ref) (hint : Hint) : M Value :=
  tryMethods r (if hint == .string then ["toString", "valueOf"] else ["valueOf", "toString"])

def toPrimitive (v : Value) (hint : Hint) : M Value := do
  match v with
  | .object r =>
    match ← Object.getMethod v (.symbol Sym.toPrimitive) with
    | some f =>
      match ← call f v #[.str hint.name] with
      | .object _ => typeError "Symbol.toPrimitive cannot return an object"
      | v => return v
    | none => ordinaryToPrimitive r (if hint == .default then .number else hint)
  | v => return v

/-- The number of a primitive value. -/
def primitiveNumber (v : Value) : M Float := do
  match v with
  | .undefined => return Value.nan
  | .null => return 0
  | .bool b => return if b then 1 else 0
  | .number x => return x
  | .text (.plain s) => return (Decimal.ofText? s).getD Value.nan
  | .text _ => return Value.nan
  | .symbol _ => typeError "argument must not be a symbol"
  | .bigint _ => typeError "argument must not be a bigint"
  | _ => return Value.nan

def toNumber (v : Value) : M Float := do
  match v with
  | .number x => return x
  | .object _ => primitiveNumber (← toPrimitive v .number)
  | v => primitiveNumber v

/-- A number or a whole number of any size. -/
def toNumeric (v : Value) : M Value := do
  match v with
  | .number _ => return v
  | .bigint _ => return v
  | .object _ =>
    match ← toPrimitive v .number with
    | .bigint i => return .bigint i
    | p => return .number (← primitiveNumber p)
  | v => return .number (← primitiveNumber v)

def bigintText (i : Int) : String := toString i

/-- The text of a primitive value. -/
def primitiveText (v : Value) : M Wide := do
  match v with
  | .undefined => return .plain "undefined"
  | .null => return .plain "null"
  | .bool b => return .plain (if b then "true" else "false")
  | .number x => return .plain (Decimal.scriptText x)
  | .text w => return w
  | .symbol _ => typeError "can't convert symbol to string"
  | .bigint i => return .plain (bigintText i)
  | _ => return .plain "undefined"

def toText (v : Value) : M Wide := do
  match v with
  | .text w => return w
  | .object _ => primitiveText (← toPrimitive v .string)
  | v => primitiveText v

/-- The text of a value as a `String`; half surrogate pairs are shown as escapes. -/
def toStr (v : Value) : M String := return (← toText v).display

def toKey (v : Value) : M PropKey := do
  match v with
  | .text w => return .ofWide w
  | .symbol id => return .symbol id
  | .number x =>
    if x ≥ 0 && x < 4294967295 && x.floor == x then return .index x.toUInt64.toNat
    else return .text (.plain (Decimal.scriptText x))
  | .object _ =>
    match ← toPrimitive v .string with
    | .symbol id => return .symbol id
    | p => return .ofWide (← primitiveText p)
  | v => return .ofWide (← primitiveText v)

/-- The whole part of a number; not a number counts as zero. -/
def toIntegerOrInf (v : Value) : M Float := do
  let x ← toNumber v
  if x.isNaN then return 0 else return Num.trunc x + 0.0

def maxLength : Float := 9007199254740991.0

def toLength (v : Value) : M Nat := do
  let x ← toIntegerOrInf v
  if x ≤ 0 then return 0 else return (if x > maxLength then maxLength else x).toUInt64.toNat

def toBits (v : Value) : M UInt32 := return Num.bits (← toNumber v)

/-- An index into something: a whole number from 0 on. -/
def toIndex (v : Value) : M Nat := do
  match v with
  | .undefined => return 0
  | v =>
    let x ← toIntegerOrInf v
    if x < 0 || x > maxLength then rangeError "integer index must be between 0 and 2^53-1"
    return x.toUInt64.toNat

def toBigInt (v : Value) : M Int := do
  match ← toPrimitive v .number with
  | .bigint i => return i
  | .bool b => return if b then 1 else 0
  | .text w =>
    match w.plain?.bind Decimal.integerOfText? with
    | some i => return i
    | none => raise .syntaxError s!"cannot convert string '{w.display}' to bigint primitive"
  | .null => typeError "cannot convert null to a BigInt"
  | .number x => typeError s!"cannot convert {Decimal.scriptText x} to a BigInt"
  | .symbol _ => typeError "cannot convert Symbol to a BigInt"
  | _ => typeError "cannot convert undefined to a BigInt"

def toObject (v : Value) : M Ref := do
  match v with
  | .object r => return r
  | .text _ => Heap.allocKind (some Intrinsic.stringPrototype) (.wrapper v)
  | .number _ => Heap.allocKind (some Intrinsic.numberPrototype) (.wrapper v)
  | .bool _ => Heap.allocKind (some Intrinsic.booleanPrototype) (.wrapper v)
  | .symbol _ => Heap.allocKind (some Intrinsic.symbolPrototype) (.wrapper v)
  | .bigint _ => Heap.allocKind (some Intrinsic.bigintPrototype) (.wrapper v)
  | _ => typeError "cannot convert 'null' or 'undefined' to object"

/-- The length of an object that is like an array. -/
def lengthOf (r : Ref) : M Nat := do
  match ← Heap.kindOf r with
  | .array _ length _ => return length
  | _ => toLength (← Object.get r Object.lengthKey)

/-! ## Operators -/

open Playpen.Script (BinaryOp UnaryOp)

def looselyEqual : Nat → Value → Value → M Bool
  | 0, _, _ => return false
  | n + 1, a, b => do
    match a, b with
    | .undefined, .null | .null, .undefined => return true
    | .number x, .text _ => return x == (← primitiveNumber b)
    | .text _, .number y => return (← primitiveNumber a) == y
    | .bigint i, .text w =>
      return (w.plain?.bind Decimal.integerOfText?).any (· == i)
    | .text w, .bigint i =>
      return (w.plain?.bind Decimal.integerOfText?).any (· == i)
    | .bigint i, .number y => return !y.isNaN && Num.compareInt i y == .eq
    | .number x, .bigint i => return !x.isNaN && Num.compareInt i x == .eq
    | .bool x, .bool y => return x == y
    | .bool x, b => looselyEqual n (.number (if x then 1 else 0)) b
    | a, .bool y => looselyEqual n a (.number (if y then 1 else 0))
    | .object _, .object _ => return a.same b
    | .object _, .undefined | .object _, .null | .undefined, .object _ | .null, .object _ => return false
    | .object _, b => looselyEqual n (← toPrimitive a .default) b
    | a, .object _ => looselyEqual n a (← toPrimitive b .default)
    | a, b => return a.same b

/-- Whether one primitive value is less than another; `none` if they cannot be compared. -/
def lessPrimitive (a b : Value) : M (Option Bool) := do
  match a, b with
  | .text x, .text y => return some (x.lt y)
  | .bigint i, .text w =>
    return (w.plain?.bind Decimal.integerOfText?).map fun j => decide (i < j)
  | .text w, .bigint j =>
    return (w.plain?.bind Decimal.integerOfText?).map fun i => decide (i < j)
  | .bigint i, .bigint j => return some (decide (i < j))
  | .bigint i, b =>
    let y ← primitiveNumber b
    return if y.isNaN then none else some (Num.compareInt i y == .lt)
  | a, .bigint j =>
    let x ← primitiveNumber a
    return if x.isNaN then none else some (Num.compareInt j x == .gt)
  | a, b =>
    let x ← primitiveNumber a
    let y ← primitiveNumber b
    return if x.isNaN || y.isNaN then none else some (x < y)

def mixed : M α := typeError "cannot mix BigInt and other types, use explicit conversions"

def bigintArithmetic (op : BinaryOp) (i j : Int) : M Value := do
  match op with
  | .sub => return .bigint (i - j)
  | .mul => return .bigint (i * j)
  | .div => if j == 0 then rangeError "BigInt division by zero" else return .bigint (Int.tdiv i j)
  | .rem => if j == 0 then rangeError "BigInt division by zero" else return .bigint (Int.tmod i j)
  | .pow =>
    if j < 0 then rangeError "BigInt negative exponent"
    else if j > 10000000 then rangeError "Maximum BigInt size exceeded"
    else return .bigint (Int.pow i j.toNat)
  | .bitAnd => return .bigint (intBits (· && ·) i j)
  | .bitOr => return .bigint (intBits (· || ·) i j)
  | .bitXor => return .bigint (intBits (· != ·) i j)
  | .shiftLeft => shift i j
  | .shiftRight => shift i (-j)
  | .shiftRightUnsigned => typeError "BigInts have no unsigned right shift, use >> instead"
  | _ => return .bigint (i + j)
where
  /-- Bit operations on the endless two's complement forms. -/
  intBits (f : Bool → Bool → Bool) (i j : Int) : Int :=
    let bits := max i.natAbs.log2 j.natAbs.log2 + 2
    let n := (List.range bits).foldr (fun (k : Nat) acc =>
      let bit := f ((i >>> k) % 2 == 1) ((j >>> k) % 2 == 1)
      acc * 2 + (if bit then 1 else 0)) 0
    if f (i < 0) (j < 0) then (n : Int) - Int.pow 2 bits else n
  shift (i j : Int) : M Value := do
    if j ≥ 0 then
      if j > 10000000 then rangeError "Maximum BigInt size exceeded"
      return .bigint (i * Int.pow 2 j.toNat)
    else return .bigint (i >>> (-j).toNat)

def numberArithmetic (op : BinaryOp) (x y : Float) : Float :=
  match op with
  | .sub => x - y
  | .mul => x * y
  | .div => x / y
  | .rem => Num.remainder x y
  | .pow => Num.power x y
  | .bitAnd => Num.ofBits (Num.bits x &&& Num.bits y)
  | .bitOr => Num.ofBits (Num.bits x ||| Num.bits y)
  | .bitXor => Num.ofBits (Num.bits x ^^^ Num.bits y)
  | .shiftLeft => Num.ofBits (Num.bits x <<< (Num.bits y &&& 31))
  | .shiftRight => Float.ofInt ((Num.ofBits (Num.bits x)).toInt64.toInt >>> (Num.bits y &&& 31).toNat)
  | .shiftRightUnsigned => (Num.bits x >>> (Num.bits y &&& 31)).toFloat
  | _ => x + y

def arithmetic (op : BinaryOp) (a b : Value) : M Value := do
  match ← toNumeric a, ← toNumeric b with
  | .number x, .number y => return .number (numberArithmetic op x y)
  | .bigint i, .bigint j => bigintArithmetic op i j
  | _, _ => mixed

def add (a b : Value) : M Value := do
  match ← toPrimitive a .default, ← toPrimitive b .default with
  | .text x, y => return .text (x ++ (← primitiveText y))
  | x, .text y => return .text ((← primitiveText x) ++ y)
  | x, y => arithmetic .add x y

def ordinaryHasInstance (f v : Value) : M Bool := do
  if !(← Object.isCallable f) then return false
  match f, v with
  | .object fr, .object vr =>
    match ← Object.getNamed fr "prototype" with
    | .object p => walk 100000 p vr
    | _ => typeError "function has non-object prototype in instanceof check"
  | _, _ => return false
where
  walk : Nat → Ref → Ref → M Bool
    | 0, _, _ => return false
    | n + 1, p, r => do
      match ← Object.getProto r with
      | none => return false
      | some q => if q == p then return true else walk n p q

/-- The function behind bound functions. -/
def unbound : Nat → Value → M Value
  | 0, f => return f
  | n + 1, f => do
    match f with
    | .object r =>
      match ← Heap.kindOf r with
      | .bound t _ _ => unbound n t
      | _ => return f
    | _ => return f

def hasInstance (f v : Value) : M Bool := do
  match f with
  | .object r =>
    match ← Heap.kindOf r with
    | .bound _ _ _ => instanceOf 1000 (← unbound 1000 f) v
    | _ => ordinaryHasInstance f v
  | _ => return false
where
  instanceOf : Nat → Value → Value → M Bool
    | _, f, v => ordinaryHasInstance f v

def instanceOf (v f : Value) : M Bool := do
  match f with
  | .object _ =>
    match ← Object.getMethod f (.symbol Sym.hasInstance) with
    | some h => return (← call h f #[v]).truthy
    | none =>
      if ← Object.isCallable f then ordinaryHasInstance f v
      else typeError "right-hand side of 'instanceof' is not callable"
  | _ => typeError s!"right-hand side of 'instanceof' should be an object, got \x60{← typeOf f}\x60"

def binary (op : BinaryOp) (a b : Value) : M Value := do
  match op with
  | .add =>
    match a, b with
    | .number x, .number y => return .number (x + y)
    | .text x, .text y => return .text (x ++ y)
    | a, b => add a b
  | .same => return .bool (a.same b)
  | .notSame => return .bool (!a.same b)
  | .equal => return .bool (← looselyEqual 10 a b)
  | .notEqual => return .bool (!(← looselyEqual 10 a b))
  | .less => compare a b false false
  | .greater => compare a b true false
  | .lessEqual => compare a b true true
  | .greaterEqual => compare a b false true
  | .isIn =>
    match b with
    | .object r => return .bool (← Object.has r (← toKey a))
    | b => typeError s!"right-hand side of 'in' should be an object, got \x60{← typeOf b}\x60"
  | .instanceOf => return .bool (← instanceOf a b)
  | op =>
    match a, b with
    | .number x, .number y => return .number (numberArithmetic op x y)
    | a, b => arithmetic op a b
where
  /-- `a < b`, or `b < a` when swapped; when negated, whether that is false and they can be compared. -/
  compare (a b : Value) (swapped negated : Bool) : M Value := do
    match a, b with
    | .number x, .number y =>
      let r := if swapped then y < x else x < y
      return .bool (if negated then !(r || x.isNaN || y.isNaN) else r)
    | a, b =>
      let p ← toPrimitive a .number
      let q ← toPrimitive b .number
      let r ← if swapped then lessPrimitive q p else lessPrimitive p q
      return .bool (if negated then r == some false else r == some true)

def unary (op : UnaryOp) (v : Value) : M Value := do
  match op with
  | .minus =>
    match ← toNumeric v with
    | .bigint i => return .bigint (-i)
    | .number x => return .number (-x)
    | v => return v
  | .plus => return .number (← toNumber v)
  | .not => return .bool (!v.truthy)
  | .complement =>
    match ← toNumeric v with
    | .bigint i => return .bigint (-i - 1)
    | .number x => return .number (Num.ofBits (~~~ (Num.bits x)))
    | v => return v
  | .typeof => return .str (← typeOf v)
  | .void => return .undefined
  | .delete => return .bool true

end Playpen.Engine
