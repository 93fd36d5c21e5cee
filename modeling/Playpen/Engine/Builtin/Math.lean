import Playpen.Engine.Builtin.Basic

/-!
# Built-in functions: mathematics
-/

namespace Playpen.Engine

open M

namespace Builtin.Mathematics

/-- `e^x - 1`, exact also where `x` is small. -/
def expm1 (x : Float) : Float :=
  let u := x.exp
  if u == 1 then x
  else if u - 1 == -1 then -1
  else if u.isInf || x.isNaN then u
  else (u - 1) * x / u.log

/-- `log (1 + x)`, exact also where `x` is small. -/
def log1p (x : Float) : Float :=
  let u := 1 + x
  if u == 1 then x
  else if u.isInf || u.isNaN || u ≤ 0 then u.log
  else u.log * x / (u - 1)

/-- Rounds to the nearest whole number, a half going up. -/
def round (x : Float) : Float :=
  if x.floor == x || !Num.isFinite x then x
  else
    let f := x.floor
    let r := if x - f < 0.5 then f else f + 1
    if r == 0 && x < 0 then -0.0 else r

def sign (x : Float) : Float := if x > 0 then 1 else if x < 0 then -1 else x

def trunc (x : Float) : Float := if x < 0 then (if x > -1 then -0.0 else x.ceil) else x.floor

/-- How many bits before the first one that is set. -/
def leadingZeros (n : UInt32) : Nat := if n == 0 then 32 else 31 - n.toNat.log2

def isNegativeZero (x : Float) : Bool := x == 0 && Decimal.isNegative x

def larger (a b : Float) : Float :=
  if a.isNaN || b.isNaN then Value.nan
  else if a == 0 && b == 0 then (if isNegativeZero a then b else a)
  else if a > b then a else b

def smaller (a b : Float) : Float :=
  if a.isNaN || b.isNaN then Value.nan
  else if a == 0 && b == 0 then (if isNegativeZero a then a else b)
  else if a < b then a else b

def numbers (i : Invocation) : M (Array Float) := i.args.mapM toNumber

def hypot (xs : Array Float) : Float :=
  if xs.any Float.isInf then Num.infinity
  else if xs.any Float.isNaN then Value.nan
  else
    let m := xs.foldl (fun m x => if x.abs > m then x.abs else m) 0
    if m == 0 then 0 else m * (xs.foldl (fun s x => s + (x / m) * (x / m)) 0).sqrt

/-- The next number of a fixed sequence without visible order. -/
def random : Behaviour := fun _ => do
  let n ← updateGet fun m =>
    let x := m.random
    let x := x ^^^ (x <<< 13)
    let x := x ^^^ (x >>> 7)
    let x := x ^^^ (x <<< 17)
    (x, { m with random := x })
  return .number ((n >>> 11).toFloat / 9007199254740992.0)

/-- Functions of one number. -/
def functions : List (String × (Float → Float)) := [
  ("abs", Float.abs), ("acos", Float.acos), ("acosh", Float.acosh), ("asin", Float.asin), ("asinh", Float.asinh),
  ("atan", Float.atan), ("atanh", Float.atanh), ("cbrt", Float.cbrt), ("ceil", Float.ceil),
  ("cos", Float.cos), ("cosh", Float.cosh), ("exp", Float.exp), ("expm1", expm1), ("floor", Float.floor),
  ("fround", fun x => x.toFloat32.toFloat), ("log", Float.log), ("log10", Float.log10), ("log1p", log1p),
  ("log2", Float.log2), ("round", round), ("sign", sign), ("sin", Float.sin), ("sinh", Float.sinh),
  ("sqrt", Float.sqrt), ("tan", Float.tan), ("tanh", Float.tanh), ("trunc", trunc)]

def constants : List (String × Float) := [
  ("E", 2.718281828459045), ("LN10", 2.302585092994046), ("LN2", 0.6931471805599453),
  ("LOG10E", 0.4342944819032518), ("LOG2E", 1.4426950408889634), ("PI", 3.141592653589793),
  ("SQRT1_2", 0.7071067811865476), ("SQRT2", 1.4142135623730951)]

def build : Build Unit := do
  let o := Intrinsic.math
  Build.setProto o (some Intrinsic.objectPrototype)
  constants.forM fun (name, x) => Build.constant o name (.number x)
  functions.forM fun (name, f) => Build.method o name 1 fun i => return .number (f (← toNumber (i.arg 0)))
  Build.method o "atan2" 2 fun i => do
    let y ← toNumber (i.arg 0)
    return .number (Float.atan2 y (← toNumber (i.arg 1)))
  Build.method o "clz32" 1 fun i => return .nat (leadingZeros (← toBits (i.arg 0)))
  Build.method o "hypot" 2 fun i => return .number (hypot (← numbers i))
  Build.method o "imul" 2 fun i => do
    let a ← toBits (i.arg 0)
    return .number (Num.ofBits (a * (← toBits (i.arg 1))))
  Build.method o "max" 2 fun i => return .number ((← numbers i).foldl larger (-Num.infinity))
  Build.method o "min" 2 fun i => return .number ((← numbers i).foldl smaller Num.infinity)
  Build.method o "pow" 2 fun i => do
    let x ← toNumber (i.arg 0)
    return .number (Num.power x (← toNumber (i.arg 1)))
  Build.method o "random" 0 random
  Build.tag o "Math"

end Builtin.Mathematics

end Playpen.Engine
