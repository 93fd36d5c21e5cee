import Playpen.Text.Classes

/-!
# Text of sixteen-bit units

A script's strings are sequences of sixteen-bit units, and a unit may be one half of a surrogate
pair that stands alone.  `Wide` keeps well-formed text as a `String` and falls back to the units
only where an unpaired surrogate makes that impossible; `ofUnits` is the one place where the choice
is made, so that equal sequences of units are equal values.
-/

namespace Playpen.Text

/-- A sequence of sixteen-bit units. -/
inductive Wide where
  /-- Well-formed text. -/
  | plain (s : String)
  /-- Units among which some surrogate is unpaired. -/
  | broken (us : Array UInt16)
  deriving BEq, Inhabited, DecidableEq

namespace Wide

def isHigh (u : UInt16) : Bool := 0xD800 ≤ u && u < 0xDC00
def isLow (u : UInt16) : Bool := 0xDC00 ≤ u && u < 0xE000

/-- The code point of a surrogate pair. -/
def pairValue (hi lo : UInt16) : Nat := (hi.toNat - 0xD800) * 0x400 + (lo.toNat - 0xDC00) + 0x10000

/-- Appends the one or two units of a character. -/
def pushChar (us : Array UInt16) (c : Char) : Array UInt16 :=
  let n := c.toNat
  if n < 0x10000 then us.push n.toUInt16
  else
    let m := n - 0x10000
    (us.push (0xD800 + m / 0x400).toUInt16).push (0xDC00 + m % 0x400).toUInt16

/-- The units of a text. -/
def unitsOf (s : String) : Array UInt16 := s.foldl pushChar (Array.mkEmpty s.utf8ByteSize)

def units : Wide → Array UInt16
  | plain s => unitsOf s
  | broken us => us

/-- Reads units as characters from position `i` on; `none` at an unpaired surrogate. -/
def decodeFrom (us : Array UInt16) (i : Nat) (acc : String) : Option String :=
  if h : i < us.size then
    let u := us[i]
    if isHigh u then
      if h' : i + 1 < us.size then
        if isLow us[i + 1] then decodeFrom us (i + 2) (acc.push (Char.ofNat (pairValue u us[i + 1])))
        else none
      else none
    else if isLow u then none
    else decodeFrom us (i + 1) (acc.push (Char.ofNat u.toNat))
  else some acc
termination_by us.size - i

/-- The text with the given units. -/
def ofUnits (us : Array UInt16) : Wide :=
  match decodeFrom us 0 "" with
  | some s => plain s
  | none => broken us

/-- Whether every character is below U+0080, so that units, characters and bytes count alike. -/
@[inline] def isAscii (s : String) : Bool := s.length == s.utf8ByteSize

/-- The text of one unit. -/
def ofUnit (u : UInt16) : Wide :=
  if isHigh u || isLow u then broken #[u] else plain (String.singleton (Char.ofNat u.toNat))

/-- The number of units. -/
def size : Wide → Nat
  | plain s =>
    if isAscii s then s.length
    else s.foldl (fun n c => if c.toNat < 0x10000 then n + 1 else n + 2) 0
  | broken us => us.size

def isEmpty : Wide → Bool
  | plain s => s.utf8ByteSize == 0
  | broken us => us.isEmpty

/-- The unit at a position. -/
def unit? (w : Wide) (i : Nat) : Option UInt16 :=
  match w with
  | plain s =>
    if isAscii s then
      if i < s.length then some (String.Pos.Raw.get s ⟨i⟩).toNat.toUInt16 else none
    else (unitsOf s)[i]?
  | broken us => us[i]?

def append : Wide → Wide → Wide
  | plain s, plain t => plain (s ++ t)
  | a, b => ofUnits (a.units ++ b.units)

instance : Append Wide := ⟨append⟩

/-- The units from position `i` up to but not including `j`. -/
def slice (w : Wide) (i j : Nat) : Wide :=
  match w with
  | plain s =>
    if isAscii s then plain (String.Pos.Raw.extract s ⟨i⟩ ⟨min j s.length⟩)
    else ofUnits ((unitsOf s).extract i j)
  | broken us => ofUnits (us.extract i j)

/-- Code points in order; an unpaired surrogate stands for itself. -/
def codePointsFrom (us : Array UInt16) (i : Nat) (acc : Array Nat) : Array Nat :=
  if h : i < us.size then
    let u := us[i]
    if isHigh u then
      if h' : i + 1 < us.size then
        if isLow us[i + 1] then codePointsFrom us (i + 2) (acc.push (pairValue u us[i + 1]))
        else codePointsFrom us (i + 1) (acc.push u.toNat)
      else codePointsFrom us (i + 1) (acc.push u.toNat)
    else codePointsFrom us (i + 1) (acc.push u.toNat)
  else acc
termination_by us.size - i

def codePoints : Wide → Array Nat
  | plain s => s.foldl (fun a c => a.push c.toNat) #[]
  | broken us => codePointsFrom us 0 #[]

/-- Appends the units of a code point, which may be a surrogate. -/
def pushCodePoint (us : Array UInt16) (n : Nat) : Array UInt16 :=
  if n < 0x10000 then us.push n.toUInt16
  else
    let m := n - 0x10000
    (us.push (0xD800 + m / 0x400).toUInt16).push (0xDC00 + m % 0x400).toUInt16

def ofCodePoints (ns : Array Nat) : Wide := ofUnits (ns.foldl pushCodePoint #[])

/-- Four upper-case hexadecimal digits. -/
def hex4 (n : Nat) : String :=
  let digit (k : Nat) : Char :=
    let d := n / Nat.pow 16 k % 16
    Char.ofNat (if d < 10 then 48 + d else 55 + d)
  String.ofList [digit 3, digit 2, digit 1, digit 0]

/-- Printed form: an unpaired surrogate is written `\u` and four upper-case hexadecimal digits. -/
def display : Wide → String
  | plain s => s
  | broken us =>
    (codePointsFrom us 0 #[]).foldl (fun acc n =>
      if 0xD800 ≤ n ∧ n < 0xE000 then acc ++ "\\u" ++ hex4 n else acc.push (Char.ofNat n)) ""

/-- The text itself when it is well-formed. -/
def plain? : Wide → Option String
  | plain s => some s
  | broken _ => none

/-- Order by units. -/
def lt (a b : Wide) : Bool :=
  match a, b with
  | plain s, plain t => if isAscii s && isAscii t then s < t else ltUnits s t
  | a, b => go a.units b.units 0
where
  go (x y : Array UInt16) (i : Nat) : Bool :=
    if h : i < y.size then
      if h' : i < x.size then
        if x[i] < y[i] then true else if y[i] < x[i] then false else go x y (i + 1)
      else true
    else false
  termination_by y.size - i
  ltUnits (s t : String) : Bool := go (unitsOf s) (unitsOf t) 0

/-- The first position at or after `start` where `pat` occurs in `us`. -/
def findFrom (us pat : Array UInt16) (start : Nat) : Option Nat :=
  if start + pat.size ≤ us.size then
    if matchAt start 0 then some start else findFrom us pat (start + 1)
  else none
termination_by us.size + 1 - start
where
  matchAt (at_ k : Nat) : Bool :=
    if h : k < pat.size then us[at_ + k]? == some pat[k] && matchAt at_ (k + 1) else true
  termination_by pat.size - k

/-- The last position at or before `start` where `pat` occurs in `us`. -/
def findLast (us pat : Array UInt16) : Nat → Option Nat
  | 0 => if findFrom.matchAt us pat 0 0 then some 0 else none
  | n + 1 => if findFrom.matchAt us pat (n + 1) 0 then some (n + 1) else findLast us pat n

instance : Hashable Wide where
  hash
    | plain s => hash s
    | broken us => us.foldl (fun h u => mixHash h u.toUInt64) 7

end Wide

end Playpen.Text
