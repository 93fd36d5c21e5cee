import Playpen.Decimal.Double
import Playpen.Text.Wide
import Std.Data.HashMap

/-!
# Values of the script engine

Objects, symbols and environments are numbers that point into the machine's tables; everything else
is held by the value itself.
-/

namespace Playpen.Engine

open Playpen.Text (Wide)

/-- The place of an object in the heap. -/
abbrev Ref := Nat

inductive Value where
  | undefined
  | null
  | bool (b : Bool)
  | number (x : Float)
  | text (w : Wide)
  | symbol (id : Nat)
  | bigint (i : Int)
  | object (r : Ref)
  /-- No value: a binding that is not initialised, or a missing element. -/
  | hole
  deriving Inhabited

namespace Value

def str (s : String) : Value := text (.plain s)

def nat (n : Nat) : Value := number n.toFloat

def int (n : Int) : Value := number (Float.ofInt n)

def nan : Float := 0.0 / 0.0

def isUndefined : Value → Bool
  | undefined => true
  | _ => false

def isNullish : Value → Bool
  | undefined => true
  | null => true
  | _ => false

def isObject : Value → Bool
  | object _ => true
  | _ => false

def isHole : Value → Bool
  | hole => true
  | _ => false

/-- A missing element reads as undefined. -/
def filled : Value → Value
  | hole => undefined
  | v => v

/-- What `Boolean(v)` gives. -/
def truthy : Value → Bool
  | undefined => false
  | null => false
  | bool b => b
  | number x => !(x == 0.0 || x.isNaN)
  | text w => !w.isEmpty
  | bigint i => i != 0
  | _ => true

/-- `===` -/
def same (a b : Value) : Bool :=
  match a, b with
  | undefined, undefined => true
  | null, null => true
  | bool x, bool y => x == y
  | number x, number y => x == y
  | text x, text y => x == y
  | symbol x, symbol y => x == y
  | bigint x, bigint y => x == y
  | object x, object y => x == y
  | hole, hole => true
  | _, _ => false

/-- As `===`, but a number that is not a number equals itself. -/
def sameZero (a b : Value) : Bool :=
  match a, b with
  | number x, number y => x == y || (x.isNaN && y.isNaN)
  | _, _ => same a b

/-- `Object.is` -/
def identical (a b : Value) : Bool :=
  match a, b with
  | number x, number y => (x.isNaN && y.isNaN) || (x == y && Decimal.isNegative x == Decimal.isNegative y)
  | _, _ => same a b

def hashCode : Value → UInt64
  | undefined => 1
  | null => 2
  | bool b => if b then 3 else 5
  | number x => if x == 0.0 then 7 else if x.isNaN then 11 else mixHash 13 x.toBits
  | text w => mixHash 17 (hash w)
  | symbol n => mixHash 19 (hash n)
  | bigint i => mixHash 23 (hash i)
  | object r => mixHash 29 (hash r)
  | hole => 31

end Value

/-- A value as the key of a `Map` or `Set`. -/
structure MapKey where
  value : Value

instance : BEq MapKey := ⟨fun a b => a.value.sameZero b.value⟩
instance : Hashable MapKey := ⟨fun k => k.value.hashCode⟩

/-! ## Property keys -/

/-- The key of a property.  Whole numbers below 2³² − 1 are always indices, never texts. -/
inductive PropKey where
  | text (w : Wide)
  | index (n : Nat)
  | symbol (id : Nat)
  deriving DecidableEq, Inhabited

namespace PropKey

instance : BEq PropKey where
  beq
    | text a, text b => a == b
    | index a, index b => a == b
    | symbol a, symbol b => a == b
    | _, _ => false

instance : Hashable PropKey where
  hash
    | text w => hash w
    | index n => mixHash 3 (hash n)
    | symbol n => mixHash 5 (hash n)

/-- The largest index. -/
def maxIndex : Nat := 4294967294

/-- The index that a text is the usual form of. -/
def indexOfText (s : String) : Option Nat :=
  let n := s.utf8ByteSize
  if n = 0 || n > 10 then none
  else
    let first := s.front
    if !Text.isDigit first then none
    else if first = '0' then (if n = 1 then some 0 else none)
    else
      match s.foldl (fun acc c => match acc with
        | some v => if Text.isDigit c then some (v * 10 + (c.toNat - 48)) else none
        | none => none) (some 0) with
      | some v => if v ≤ maxIndex then some v else none
      | none => none

def ofWide (w : Wide) : PropKey :=
  match w with
  | .plain s =>
    match indexOfText s with
    | some n => index n
    | none => text w
  | .broken _ => text w

def ofString (s : String) : PropKey := ofWide (.plain s)

/-- The key of a whole number of any size. -/
def ofNat (n : Nat) : PropKey := if n ≤ maxIndex then index n else text (.plain (Decimal.scriptText n.toFloat))

/-- A key that is no symbol as a text. -/
def wide : PropKey → Wide
  | text w => w
  | index n => .plain (toString n)
  | symbol _ => .plain ""

/-- A key as a value. -/
def value : PropKey → Value
  | text w => .text w
  | index n => .str (toString n)
  | symbol id => .symbol id

def isSymbol : PropKey → Bool
  | symbol _ => true
  | _ => false

end PropKey

/-! ## Well-known symbols -/

namespace Sym

def iterator : Nat := 0
def asyncIterator : Nat := 1
def hasInstance : Nat := 2
def toPrimitive : Nat := 3
def toStringTag : Nat := 4
def species : Nat := 5
def isConcatSpreadable : Nat := 6
def unscopables : Nat := 7
def «match» : Nat := 8
def matchAll : Nat := 9
def replace : Nat := 10
def search : Nat := 11
def split : Nat := 12

/-- Their names, in order. -/
def names : List String := [
  "iterator", "asyncIterator", "hasInstance", "toPrimitive", "toStringTag", "species", "isConcatSpreadable",
  "unscopables", "match", "matchAll", "replace", "search", "split"]

end Sym

/-! ## Properties -/

structure Attrs where
  writable : Bool
  enumerable : Bool
  configurable : Bool
  deriving DecidableEq, Inhabited

namespace Attrs

def all : Attrs := ⟨true, true, true⟩
def none : Attrs := ⟨false, false, false⟩
/-- As built-in methods have them. -/
def hidden : Attrs := ⟨true, false, true⟩
def configurableOnly : Attrs := ⟨false, false, true⟩

end Attrs

/-- A property: a value, or functions that get and set it. -/
inductive Slot where
  | data (v : Value) (a : Attrs)
  | accessor (get set : Value) (enumerable configurable : Bool)
  deriving Inhabited

namespace Slot

def isEnumerable : Slot → Bool
  | data _ a => a.enumerable
  | accessor _ _ e _ => e

def isConfigurable : Slot → Bool
  | data _ a => a.configurable
  | accessor _ _ _ c => c

end Slot

/-- Properties in order of creation, with an index once there are many. -/
structure Props where
  entries : Array (PropKey × Slot)
  index : Std.HashMap PropKey Nat
  deriving Inhabited

namespace Props

def empty : Props := ⟨#[], {}⟩

/-- How many properties are found by going through them. -/
def smallSize : Nat := 12

def findFrom (entries : Array (PropKey × Slot)) (k : PropKey) (i : Nat) : Option Nat :=
  if h : i < entries.size then
    if entries[i].1 == k then some i else findFrom entries k (i + 1)
  else none
termination_by entries.size - i

def find? (p : Props) (k : PropKey) : Option Nat :=
  if p.entries.size ≤ smallSize then findFrom p.entries k 0 else p.index[k]?

def get? (p : Props) (k : PropKey) : Option Slot := (p.find? k).bind fun i => (p.entries[i]?).map (·.2)

def buildIndex (entries : Array (PropKey × Slot)) : Std.HashMap PropKey Nat :=
  (entries.foldl (fun (acc : Std.HashMap PropKey Nat × Nat) e => (acc.1.insert e.1 acc.2, acc.2 + 1)) ({}, 0)).1

def set (p : Props) (k : PropKey) (s : Slot) : Props :=
  match p.find? k with
  | some i => { p with entries := p.entries.setIfInBounds i (k, s) }
  | none =>
    let n := p.entries.size
    if n < smallSize then { p with entries := p.entries.push (k, s) }
    else
      let entries := p.entries.push (k, s)
      if n = smallSize then ⟨entries, buildIndex entries⟩ else ⟨entries, p.index.insert k n⟩

def erase (p : Props) (k : PropKey) : Props :=
  match p.find? k with
  | some i =>
    let entries := p.entries.eraseIdxIfInBounds i
    if entries.size ≤ smallSize then ⟨entries, {}⟩ else ⟨entries, buildIndex entries⟩
  | none => p

def ofList (l : List (PropKey × Slot)) : Props := l.foldl (fun p (k, s) => p.set k s) empty

end Props

/-! ## Errors -/

/-- The kind of an error that the engine raises. -/
inductive ErrorKind where
  | error | type | reference | range | syntaxError | eval | uri | aggregate
  deriving DecidableEq, Inhabited, Repr

/-- The name of the constructor of errors of a kind. -/
def ErrorKind.name : ErrorKind → String
  | error => "Error"
  | type => "TypeError"
  | reference => "ReferenceError"
  | range => "RangeError"
  | syntaxError => "SyntaxError"
  | eval => "EvalError"
  | uri => "URIError"
  | aggregate => "AggregateError"

/-- The name of a kind in a report. -/
def ErrorKind.label : ErrorKind → String
  | uri => "UriError"
  | k => k.name

/-- What ends a computation early. -/
inductive Thrown where
  /-- A value that a script has thrown. -/
  | value (v : Value)
  /-- An error that the engine has raised; it has a trace once it has met a function of the script. -/
  | raised (kind : ErrorKind) (message : String) (trace : Option (List String))
  /-- A limit has been exceeded, which no script can catch. -/
  | limit (message : String) (trace : Option (List String))
  deriving Inhabited

end Playpen.Engine
