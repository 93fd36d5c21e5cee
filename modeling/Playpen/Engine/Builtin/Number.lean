import Playpen.Engine.Builtin.Basic

/-!
# Built-in functions: numbers, truth values, and the global functions on numbers
-/

namespace Playpen.Engine

open M
open Playpen.Text (Wide)

namespace Builtin.Numbers

/-! ## Reading numbers -/

/-- Text without blanks in front. -/
def trimmed (w : Wide) : List Char := match w with
  | .plain s => s.toList.dropWhile Decimal.isScriptBlank
  | .broken us => (us.toList.map fun u => Char.ofNat u.toNat).dropWhile Decimal.isScriptBlank

/-- The sign in front of digits. -/
def signOf : List Char → Bool × List Char
  | '-' :: cs => (true, cs)
  | '+' :: cs => (false, cs)
  | cs => (false, cs)

/-- The longest beginning that is a decimal numeral without a sign. -/
def decimalPart (cs : List Char) : List Char :=
  let whole := cs.takeWhile Text.isDigit
  let rest := cs.dropWhile Text.isDigit
  let (mantissa, rest) := match rest with
    | '.' :: r =>
      let places := r.takeWhile Text.isDigit
      if whole.isEmpty && places.isEmpty then ([], rest) else (whole ++ '.' :: places, r.dropWhile Text.isDigit)
    | r => (whole, r)
  if mantissa.isEmpty then []
  else
    match rest with
    | e :: r =>
      if e == 'e' || e == 'E' then
        let (mark, ds) := match r with
          | '-' :: ds => (['-'], ds)
          | '+' :: ds => (['+'], ds)
          | ds => ([], ds)
        let digits := ds.takeWhile Text.isDigit
        if digits.isEmpty then mantissa else mantissa ++ e :: mark ++ digits
      else mantissa
    | [] => mantissa

def parseFloat (w : Wide) : Float :=
  let (negative, cs) := signOf (trimmed w)
  let x :=
    if "Infinity".toList.isPrefixOf cs then Num.infinity
    else match decimalPart cs with
      | [] => Value.nan
      | part => (Decimal.ofText? (String.ofList part)).getD Value.nan
  if negative then -x else x

def digitOf (c : Char) : Nat :=
  if Text.isDigit c then c.toNat - 48
  else if 'a' ≤ c && c ≤ 'z' then c.toNat - 87
  else if 'A' ≤ c && c ≤ 'Z' then c.toNat - 55
  else 36

def parseInt (w : Wide) (radix : UInt32) : Float :=
  let (negative, cs) := signOf (trimmed w)
  let r := (Num.ofBits radix)
  if r != 0 && (r < 2 || r > 36) then Value.nan
  else
    let hex := match cs with
      | '0' :: x :: _ => (x == 'x' || x == 'X') && (r == 0 || r == 16)
      | _ => false
    let base := if hex then 16 else if r == 0 then 10 else r.toUInt64.toNat
    let cs := if hex then cs.drop 2 else cs
    let digits := (cs.map digitOf).takeWhile (· < base)
    if digits.isEmpty then Value.nan
    else
      let x := Num.ofInt (digits.foldl (fun n d => n * base + d) 0 : Nat)
      if negative then -x else x

/-! ## Writing numbers -/

def thisNumber (v : Value) : M Float := do
  match v with
  | .number x => return x
  | .object r =>
    match ← Heap.kindOf r with
    | .wrapper (.number x) => return x
    | _ => typeError "'this' is not a number"
  | _ => typeError "'this' is not a number"

def withSign (x : Float) (text : String) : Value := .str (if x < 0 then "-" ++ text else text)

def toStringMethod : Behaviour := fun i => do
  let x ← thisNumber i.this
  let radix ← match i.arg 0 with
    | .undefined => pure 10
    | v => toIntegerOrInf v
  if radix < 2 || radix > 36 then rangeError "radix must be an integer at least 2 and no greater than 36"
  if radix == 10 || !Num.isFinite x then return .str (Decimal.scriptText x)
  return .str (Decimal.radixText x radix.toUInt64.toNat)

def toFixed : Behaviour := fun i => do
  let x ← thisNumber i.this
  let places ← toIntegerOrInf (i.arg 0)
  if places < 0 || places > 100 then rangeError "toFixed() digits argument must be between 0 and 100"
  if !Num.isFinite x || x.abs ≥ 1e21 then return .str (Decimal.scriptText x)
  return withSign x (Decimal.fixedText x places.toUInt64.toNat)

def toExponential : Behaviour := fun i => do
  let x ← thisNumber i.this
  let places ← toIntegerOrInf (i.arg 0)
  if !Num.isFinite x then return .str (Decimal.scriptText x)
  if places < 0 || places > 100 then rangeError "toExponential() argument must be between 0 and 100"
  return withSign x (Decimal.exponentialText x (if (i.arg 0).isUndefined then none else some places.toUInt64.toNat))

def toPrecision : Behaviour := fun i => do
  let x ← thisNumber i.this
  if (i.arg 0).isUndefined then return .str (Decimal.scriptText x)
  let digits ← toIntegerOrInf (i.arg 0)
  if !Num.isFinite x then return .str (Decimal.scriptText x)
  if digits < 1 || digits > 100 then rangeError "precision must be an integer at least 1 and no greater than 100"
  return withSign x (Decimal.precisionText x digits.toUInt64.toNat)

def construct : Behaviour := fun i => do
  let x ← if i.args.isEmpty then pure 0 else
    match ← toNumeric (i.arg 0) with
    | .bigint n => pure (Num.ofInt n)
    | .number x => pure x
    | _ => pure Value.nan
  if i.isConstruct then i.create Intrinsic.numberPrototype (.wrapper (.number x)) else return .number x

def isWhole : Value → Bool
  | .number x => Num.isFinite x && x.floor == x
  | _ => false

def maxSafe : Float := 9007199254740991.0

def buildNumber : Build Unit := do
  let c := Intrinsic.number
  let p := Intrinsic.numberPrototype
  Build.constructor c p "Number" 1 construct
  Build.setKind p (.wrapper (.number 0))
  Build.constant c "EPSILON" (.number (Float.ofBits 0x3CB0000000000000))
  Build.constant c "MAX_SAFE_INTEGER" (.number maxSafe)
  Build.constant c "MIN_SAFE_INTEGER" (.number (-maxSafe))
  Build.constant c "MAX_VALUE" (.number (Float.ofBits 0x7FEFFFFFFFFFFFFF))
  Build.constant c "MIN_VALUE" (.number (Float.ofBits 1))
  Build.constant c "NEGATIVE_INFINITY" (.number (-Num.infinity))
  Build.constant c "POSITIVE_INFINITY" (.number Num.infinity)
  Build.constant c "NaN" (.number Value.nan)
  let parseFloatFn ← Build.function "parseFloat" 1 fun i => return .number (parseFloat (← toText (i.arg 0)))
  let parseIntFn ← Build.function "parseInt" 2 fun i => do
    let w ← toText (i.arg 0)
    return .number (parseInt w (← toBits (i.arg 1)))
  for o in [c, Intrinsic.global] do
    Build.hidden o "parseFloat" (.object parseFloatFn)
    Build.hidden o "parseInt" (.object parseIntFn)
  Build.method c "isFinite" 1 fun i => return .bool (match i.arg 0 with
    | .number x => Num.isFinite x
    | _ => false)
  Build.method c "isInteger" 1 fun i => return .bool (isWhole (i.arg 0))
  Build.method c "isNaN" 1 fun i => return .bool (match i.arg 0 with
    | .number x => x.isNaN
    | _ => false)
  Build.method c "isSafeInteger" 1 fun i => return .bool (match i.arg 0 with
    | .number x => isWhole (.number x) && x.abs ≤ maxSafe
    | _ => false)
  Build.method p "toExponential" 1 toExponential
  Build.method p "toFixed" 1 toFixed
  Build.method p "toLocaleString" 0 fun i => return .str (Decimal.scriptText (← thisNumber i.this))
  Build.method p "toPrecision" 1 toPrecision
  Build.method p "toString" 1 toStringMethod
  Build.method p "valueOf" 0 fun i => return .number (← thisNumber i.this)
  Build.method Intrinsic.global "isFinite" 1 fun i => return .bool (Num.isFinite (← toNumber (i.arg 0)))
  Build.method Intrinsic.global "isNaN" 1 fun i => return .bool (← toNumber (i.arg 0)).isNaN

/-! ## Truth values -/

def thisBool (v : Value) : M Bool := do
  match v with
  | .bool b => return b
  | .object r =>
    match ← Heap.kindOf r with
    | .wrapper (.bool b) => return b
    | _ => typeError "'this' is not a boolean"
  | _ => typeError "'this' is not a boolean"

def buildBoolean : Build Unit := do
  let p := Intrinsic.booleanPrototype
  Build.constructor Intrinsic.boolean p "Boolean" 1 fun i => do
    let v := Value.bool (i.arg 0).truthy
    if i.isConstruct then i.create p (.wrapper v) else return v
  Build.setKind p (.wrapper (.bool false))
  Build.method p "toString" 0 fun i => return .str (if ← thisBool i.this then "true" else "false")
  Build.method p "valueOf" 0 fun i => return .bool (← thisBool i.this)

/-! ## Whole numbers of any size -/

def thisBigint (v : Value) : M Int := do
  match v with
  | .bigint n => return n
  | .object r =>
    match ← Heap.kindOf r with
    | .wrapper (.bigint n) => return n
    | _ => typeError "'this' is not a BigInt"
  | _ => typeError "'this' is not a BigInt"

def bigintOf : Behaviour := fun i => do
  if i.isConstruct then typeError "BigInt is not a constructor"
  match ← toPrimitive (i.arg 0) .number with
  | .number x =>
    if Num.isFinite x && x.floor == x then return .bigint (Num.toInt x)
    else rangeError s!"cannot convert {Decimal.scriptText x} to a BigInt"
  | v => return .bigint (← toBigInt v)

def bigintRadix (n : Int) (radix : Nat) : String :=
  let ds := String.ofList ((Nat.toDigits radix n.natAbs))
  let ds := if radix > 16 then slow radix n.natAbs else ds
  if n < 0 then "-" ++ ds else ds
where
  slow (radix n : Nat) : String :=
    let rec go : Nat → Nat → List Char → List Char
      | 0, _, acc => acc
      | fuel + 1, n, acc =>
        let acc := Decimal.radixDigit (n % radix) :: acc
        if n / radix = 0 then acc else go fuel (n / radix) acc
    String.ofList (go (n.log2 + 2) n [])

def buildBigint : Build Unit := do
  let c := Intrinsic.bigint
  let p := Intrinsic.bigintPrototype
  Build.constructor c p "BigInt" 1 bigintOf
  Build.method c "asIntN" 2 fun i => do
    let bits ← toIndex (i.arg 0)
    let n ← toBigInt (i.arg 1)
    let r := n % Int.pow 2 bits
    return .bigint (if bits > 0 && r ≥ Int.pow 2 (bits - 1) then r - Int.pow 2 bits else r)
  Build.method c "asUintN" 2 fun i => do
    let bits ← toIndex (i.arg 0)
    return .bigint ((← toBigInt (i.arg 1)) % Int.pow 2 bits)
  Build.method p "toString" 0 fun i => do
    let n ← thisBigint i.this
    let radix ← match i.arg 0 with
      | .undefined => pure 10
      | v => toIntegerOrInf v
    if radix < 2 || radix > 36 then rangeError "radix must be an integer at least 2 and no greater than 36"
    return .str (bigintRadix n radix.toUInt64.toNat)
  Build.method p "toLocaleString" 0 fun i => return .str (toString (← thisBigint i.this))
  Build.method p "valueOf" 0 fun i => return .bigint (← thisBigint i.this)
  Build.tag p "BigInt"

end Builtin.Numbers

end Playpen.Engine
