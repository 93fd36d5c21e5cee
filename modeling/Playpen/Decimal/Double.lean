/-!
# Decimal forms of double-precision numbers

A finite double is `m · 2^q` for natural `m`.  Every decision below is made on `m` and `q` in exact
integer arithmetic: the fewest decimal digits that read back, a fixed number of places, a fixed
number of significant digits, and digits in another radix.  What is positional and what has an
exponent is a `Style`, one record per format.
-/

namespace Playpen.Decimal

/-- The number `m · 2^q`. -/
structure Binary where
  m : Nat
  q : Int
  deriving Repr, DecidableEq

/-- Sign bit, exponent field and fraction field of a double. -/
def fields (x : Float) : Bool × Nat × Nat :=
  let b := x.toBits.toNat
  (b / Nat.pow 2 63 % 2 = 1, b / Nat.pow 2 52 % 2048, b % Nat.pow 2 52)

def isNegative (x : Float) : Bool := (fields x).1

def isFinite (x : Float) : Bool := (fields x).2.1 < 2047

/-- The absolute value of a finite double. -/
def Binary.ofFloat (x : Float) : Binary :=
  let (_, e, f) := fields x
  if e = 0 then ⟨f, -1074⟩ else ⟨f + Nat.pow 2 52, e - 1075⟩

/-- The number `digits · 10^exponent`. -/
structure Scaled where
  digits : Nat
  exponent : Int
  deriving Repr, DecidableEq

/-- Removes zeros at the end of the digits. -/
def Scaled.strip : Nat → Scaled → Scaled
  | 0, d => d
  | n + 1, d => if d.digits ≠ 0 ∧ d.digits % 10 = 0 then strip n ⟨d.digits / 10, d.exponent + 1⟩ else d

/-- `a · 10^k` for a signed `k`, as a fraction. -/
def scale10 (num den : Nat) (k : Int) : Nat × Nat :=
  if k ≥ 0 then (num * Nat.pow 10 k.toNat, den) else (num, den * Nat.pow 10 (-k).toNat)

/-- The least `k`, starting the search at `k`, with `num / den < 10^k`. -/
def magnitudeUp (num den : Nat) : Nat → Int → Int
  | 0, k => k
  | fuel + 1, k =>
    let (n, d) := scale10 num den (-k)
    if n < d then k else magnitudeUp num den fuel (k + 1)

/-- The position of the point: the `k` with `10^(k-1) ≤ num / den < 10^k`. -/
def magnitude (num den : Nat) : Int :=
  let guess := ((num.log2 : Int) - (den.log2 : Int)) * 30103 / 100000 - 2
  magnitudeUp num den 8 guess

/-- A value with the ends of the interval of reals that are read back as it, over one denominator. -/
structure Rounding where
  value : Nat
  low : Nat
  high : Nat
  den : Nat
  closed : Bool

/-- The reals nearer to `b` than to any other double, ends included when `b`'s significand is even. -/
def Binary.rounding (b : Binary) : Rounding :=
  let up := Nat.pow 2 (b.q - 2).toNat
  let den := Nat.pow 2 (2 - b.q).toNat
  let below := if b.m = Nat.pow 2 52 ∧ b.q > -1074 then 1 else 2
  ⟨4 * b.m * up, (4 * b.m - below) * up, (4 * b.m + 2) * up, den, b.m % 2 = 0⟩

/-- Whether the grid point `d · 10^k` is read back as the value. -/
def Rounding.holds (r : Rounding) (d : Nat) (k : Int) : Bool :=
  let (n, t) := scale10 d 1 k
  let x := n * r.den
  if r.closed then r.low * t ≤ x ∧ x ≤ r.high * t else r.low * t < x ∧ x < r.high * t

/-- Tries grids of `n`, `n + 1`, … digits: of the two grid points around the value the one that is
read back, and of two such the nearer. -/
def shortestFrom (r : Rounding) (point : Int) : Nat → Nat → Scaled
  | 0, _ => ⟨0, 0⟩
  | fuel + 1, n =>
    let k := point - n
    let (num, den) := scale10 r.value r.den (-k)
    let d := num / den
    let lowOk := r.holds d k
    let highOk := r.holds (d + 1) k
    if lowOk && highOk then
      let twice := 2 * (num % den)
      if twice < den ∨ (twice = den ∧ d % 2 = 0) then ⟨d, k⟩ else ⟨d + 1, k⟩
    else if lowOk then ⟨d, k⟩
    else if highOk then ⟨d + 1, k⟩
    else shortestFrom r point fuel (n + 1)

/-- The fewest digits that are read back as `b`, and of those the nearest. -/
def shortest (b : Binary) : Scaled :=
  if b.m = 0 then ⟨0, 0⟩
  else
    let r := b.rounding
    Scaled.strip 20 (shortestFrom r (magnitude r.value r.den) 18 1)

/-- How a decimal is laid out. -/
structure Style where
  /-- Numbers below `10^positionalBelow` are positional. -/
  positionalBelow : Int
  /-- Numbers at or above `10^positionalFrom` are positional. -/
  positionalFrom : Int
  /-- What follows the digits of a positional whole number. -/
  wholeSuffix : String
  /-- The sign of zero is written. -/
  signedZero : Bool

/-- Scripts write whole numbers bare, keep positional notation from `1e-6` up to `1e21`, and have
one zero. -/
def Style.script : Style := ⟨21, -6, "", false⟩

/-- JSON documents mark a whole double by `.0`, are positional from `1e-5` up to `1e16`, and write
the sign of zero. -/
def Style.document : Style := ⟨16, -5, ".0", true⟩

def zeros (n : Nat) : String := "".pushn '0' n

def natText (n : Nat) : String := String.ofList (Nat.toDigits 10 n)

/-- Exponent part: `e`, a sign, and the exponent. -/
def exponentText (e : Int) : String :=
  if e < 0 then "e-" ++ natText e.natAbs else "e+" ++ natText e.natAbs

/-- Lays out a nonzero decimal in a style. -/
def Scaled.layout (d : Scaled) (s : Style) : String :=
  let ds := natText d.digits
  let n : Int := ds.length
  let point := n + d.exponent
  if s.positionalFrom < point ∧ point ≤ s.positionalBelow then
    if d.exponent ≥ 0 then ds ++ zeros d.exponent.toNat ++ s.wholeSuffix
    else if point > 0 then
      String.ofList ((ds.toList).take point.toNat) ++ "." ++ String.ofList ((ds.toList).drop point.toNat)
    else "0." ++ zeros (-point).toNat ++ ds
  else
    let lead := String.ofList (ds.toList.take 1)
    let rest := String.ofList (ds.toList.drop 1)
    lead ++ (if rest = "" then "" else "." ++ rest) ++ exponentText (point - 1)

/-- The text of a finite double in a style. -/
def finiteText (s : Style) (x : Float) : String :=
  let (neg, e, f) := fields x
  if e = 0 ∧ f = 0 then (if neg ∧ s.signedZero then "-0" else "0") ++ s.wholeSuffix
  else
    let b := Binary.ofFloat x
    let body :=
      -- a whole number below 2^53 is its own shortest form
      if b.q ≤ 0 ∧ b.q ≥ -52 ∧ b.m % Nat.pow 2 (-b.q).toNat = 0 then
        natText (b.m / Nat.pow 2 (-b.q).toNat) ++ s.wholeSuffix
      else (shortest b).layout s
    if neg then "-" ++ body else body

/-- A number as scripts print it. -/
def scriptText (x : Float) : String :=
  let (neg, e, f) := fields x
  if e = 2047 then (if f ≠ 0 then "NaN" else if neg then "-Infinity" else "Infinity")
  else finiteText Style.script x

/-- A number as JSON documents hold it. -/
def documentText (x : Float) : String := finiteText Style.document x

/-- `num / den` rounded to the nearest whole number, a half going up. -/
def roundHalfUp (num den : Nat) : Nat := (2 * num + den) / (2 * den)

/-- The value as a fraction. -/
def Binary.fraction (b : Binary) : Nat × Nat :=
  if b.q ≥ 0 then (b.m * Nat.pow 2 b.q.toNat, 1) else (b.m, Nat.pow 2 (-b.q).toNat)

/-- Digits with `places` of them after the point. -/
def placeText (n places : Nat) : String :=
  if places = 0 then natText n
  else
    let ds := natText n
    let ds := zeros (places + 1 - ds.length) ++ ds
    let cut := ds.length - places
    String.ofList (ds.toList.take cut) ++ "." ++ String.ofList (ds.toList.drop cut)

/-- Absolute value of a finite double with a fixed number of places. -/
def fixedText (x : Float) (places : Nat) : String :=
  let (num, den) := (Binary.ofFloat x).fraction
  placeText (roundHalfUp (num * Nat.pow 10 places) den) places

/-- The `n` leading digits of a positive value, rounded half up, and the position of the point. -/
def leadingDigits (b : Binary) (n : Nat) : Nat × Int :=
  let (num, den) := b.fraction
  let point := magnitude num den
  let (a, c) := scale10 num den (n - point)
  let d := roundHalfUp a c
  if d ≥ Nat.pow 10 n then (d / 10, point + 1) else (d, point)

/-- `d.ddd` from a row of digits. -/
def mantissaText (ds : String) : String :=
  let rest := String.ofList (ds.toList.drop 1)
  String.ofList (ds.toList.take 1) ++ (if rest = "" then "" else "." ++ rest)

/-- Absolute value of a finite double in exponent notation, with `places` digits after the point, or
as many as needed. -/
def exponentialText (x : Float) (places : Option Nat) : String :=
  let b := Binary.ofFloat x
  if b.m = 0 then mantissaText (zeros (places.getD 0 + 1)) ++ "e+0"
  else match places with
    | some p =>
      let (d, point) := leadingDigits b (p + 1)
      mantissaText (natText d) ++ exponentText (point - 1)
    | none =>
      let d := shortest b
      let ds := natText d.digits
      mantissaText ds ++ exponentText (ds.length + d.exponent - 1)

/-- Absolute value of a finite double with `p` significant digits. -/
def precisionText (x : Float) (p : Nat) : String :=
  let b := Binary.ofFloat x
  if b.m = 0 then placeText 0 (p - 1)
  else
    let (d, point) := leadingDigits b p
    let ds := natText d
    let e := point - 1
    if e < -6 ∨ e ≥ p then mantissaText ds ++ exponentText e
    else if e = p - 1 then ds
    else if e ≥ 0 then
      String.ofList (ds.toList.take point.toNat) ++ "." ++ String.ofList (ds.toList.drop point.toNat)
    else "0." ++ zeros (-point).toNat ++ ds

def radixDigit (n : Nat) : Char := Char.ofNat (if n < 10 then 48 + n else 87 + n)

/-- Adds one unit in the last place to a row of digits, dropping digits that overflow; the flag says
that the carry left the row. -/
def carry (radix : Nat) : List Nat → List Nat × Bool
  | [] => ([], true)
  | d :: ds => if d + 1 < radix then ((d + 1) :: ds, false) else carry radix ds

/-- Digits after the point in a radix, last digit first: digits are taken until what remains is
within `delta` of nothing, and the last one is rounded. -/
def fractionDigits (radix : Nat) : Nat → Float → Float → List Nat → List Nat × Bool
  | 0, _, _, acc => (acc, false)
  | fuel + 1, fraction, delta, acc =>
    let fraction := fraction * radix.toFloat
    let delta := delta * radix.toFloat
    let digit := fraction.toUInt64.toNat
    let fraction := fraction - digit.toFloat
    let acc := digit :: acc
    if (fraction > 0.5 || (fraction == 0.5 && digit % 2 == 1)) && fraction + delta > 1 then
      carry radix acc
    else if fraction >= delta then fractionDigits radix fuel fraction delta acc
    else (acc, false)

/-- Digits of a whole double in a radix, most significant first.  While the next quotient is still
beyond the precision of a double the digit is unknown, and a zero is written for it. -/
def wholeDigits (radix : Nat) : Nat → Float → List Char → List Char
  | 0, _, acc => acc
  | fuel + 1, whole, acc =>
    if whole / radix.toFloat >= 9007199254740992.0 then
      wholeDigits radix fuel (whole / radix.toFloat) ('0' :: acc)
    else
      let n := whole.toUInt64.toNat
      let remainder := (n % radix).toFloat + (whole - n.toFloat)
      let acc := radixDigit (n % radix) :: acc
      let next := (whole - remainder) / radix.toFloat
      if next > 0 then wholeDigits radix fuel next acc else acc

/-- The neighbour above of a positive double. -/
def nextUp (x : Float) : Float := Float.ofBits (x.toBits + 1)

/-- A finite double in a radix from 2 to 36. -/
def radixText (x : Float) (radix : Nat) : String :=
  let neg := x < 0
  let x := x.abs
  let whole := x.floor
  let fraction := x - whole
  let half := 0.5 * (nextUp x - x)
  let tiny := Float.ofBits 1
  let delta := if half < tiny then tiny else half
  let (digits, up) := if fraction >= delta then fractionDigits radix 1100 fraction delta [] else ([], false)
  let whole := if up then whole + 1 else whole
  let tail := if digits.isEmpty then "" else "." ++ String.ofList (digits.reverse.map radixDigit)
  (if neg then "-" else "") ++ String.ofList (wholeDigits radix 1100 whole []) ++ tail

/-- The double nearest to `digits · 10^exponent`.  Beyond the range of doubles the answer is known
from the size alone. -/
def toFloat (digits : Nat) (exponent : Int) : Float :=
  if digits = 0 then 0.0
  else
    let point := (natText digits).length + exponent
    if point > 320 then 1.0 / 0.0
    else if point < -400 then 0.0
    else if exponent ≥ 0 then Float.ofScientific digits false exponent.toNat
    else Float.ofScientific digits true (-exponent).toNat

end Playpen.Decimal
