import Playpen.Engine.Builtin.Basic
import Playpen.Text.Normal

/-!
# Built-in functions: texts

Positions in texts count sixteen-bit units.
-/

namespace Playpen.Engine

open M
open Playpen.Text (Wide)

namespace Builtin.Texts

def requireText (v : Value) : M Wide := do
  if v.isNullish then typeError "cannot convert null or undefined to Object"
  toText v

def this (i : Invocation) : M Wide := requireText i.this

/-- A position from zero up to a length. -/
def clamped (v : Value) (length : Nat) (otherwise : Nat) : M Nat := do
  match v with
  | .undefined => return otherwise
  | v =>
    let x ← toIntegerOrInf v
    return if x ≤ 0 then 0 else if x ≥ length.toFloat then length else x.toUInt64.toNat

/-- A position that counts from the end if negative. -/
def relative (v : Value) (length otherwise : Nat) : M Nat := do
  match v with
  | .undefined => return otherwise
  | v =>
    let x ← toIntegerOrInf v
    let n := length.toFloat
    if x < 0 then return if n + x < 0 then 0 else (n + x).toUInt64.toNat
    else return if x > n then length else x.toUInt64.toNat

def trimStart (w : Wide) : Wide :=
  match w with
  | .plain s => .plain (String.ofList (s.toList.dropWhile Decimal.isScriptBlank))
  | .broken us => .ofUnits ((us.toList.dropWhile isBlankUnit).toArray)
where
  isBlankUnit (u : UInt16) : Bool := !Wide.isHigh u && !Wide.isLow u && Decimal.isScriptBlank (Char.ofNat u.toNat)

def trimEnd (w : Wide) : Wide :=
  match w with
  | .plain s => .plain (String.ofList (s.toList.reverse.dropWhile Decimal.isScriptBlank).reverse)
  | .broken us => .ofUnits (((us.toList.reverse.dropWhile trimStart.isBlankUnit).reverse).toArray)

/-- Changes the characters of a text; half pairs stay. -/
def mapChars (f : Char → List Char) (w : Wide) : Wide :=
  match w with
  | .plain s => .plain (String.ofList (s.toList.flatMap f))
  | .broken _ =>
    .ofCodePoints (w.codePoints.toList.flatMap fun n =>
      if 0xD800 ≤ n && n < 0xE000 then [n] else (f (Char.ofNat n)).map Char.toNat).toArray

def repeatText (w : Wide) (n : Nat) : Wide :=
  match w with
  | .plain s => .plain ((List.range n).foldl (fun acc _ => acc ++ s) "")
  | .broken us => .ofUnits ((List.range n).foldl (fun acc _ => acc ++ us) #[])

/-- The first position at or behind another where a text occurs. -/
def indexFrom (w pat : Wide) (start : Nat) : Option Nat := Wide.findFrom w.units pat.units start

/-- A value that is no regular expression as a text. -/
def plainArgument (v : Value) (method : String) : M Wide := do
  match v with
  | .object r =>
    let isRegex ← match ← Object.get r (.symbol Sym.match) with
      | .undefined => do
        match ← Heap.kindOf r with
        | .regex _ => pure true
        | _ => pure false
      | v => pure v.truthy
    if isRegex then
      typeError s!"First argument to String.prototype.{method} must not be a regular expression"
    toText v
  | v => toText v

/-! ## Methods -/

def at_ : Behaviour := fun i => do
  let w ← this i
  let n := w.size.toFloat
  let x ← toIntegerOrInf (i.arg 0)
  let k := if x ≥ 0 then x else n + x
  if k < 0 || k ≥ n then return .undefined
  match w.unit? k.toUInt64.toNat with
  | some u => return .text (.ofUnit u)
  | none => return .undefined

def unitAt (i : Invocation) : M (Option UInt16) := do
  let w ← this i
  let x ← toIntegerOrInf (i.arg 0)
  if x < 0 || x ≥ w.size.toFloat then return none
  return w.unit? x.toUInt64.toNat

def charAt : Behaviour := fun i => do
  match ← unitAt i with
  | some u => return .text (.ofUnit u)
  | none => return .str ""

def charCodeAt : Behaviour := fun i => do
  match ← unitAt i with
  | some u => return .nat u.toNat
  | none => return .number Value.nan

/-- The code point that begins at a unit, and how many units it takes. -/
def codePointAt (us : Array UInt16) (k : Nat) : Option (Nat × Nat) :=
  match us[k]? with
  | none => none
  | some u =>
    match us[k + 1]? with
    | some v => if Wide.isHigh u && Wide.isLow v then some (Wide.pairValue u v, 2) else some (u.toNat, 1)
    | none => some (u.toNat, 1)

def codePoint : Behaviour := fun i => do
  let w ← this i
  let x ← toIntegerOrInf (i.arg 0)
  if x < 0 || x ≥ w.size.toFloat then return .undefined
  match codePointAt w.units x.toUInt64.toNat with
  | some (n, _) => return .nat n
  | none => return .undefined

def concat : Behaviour := fun i => do
  let mut w ← this i
  for v in i.args do w := w ++ (← toText v)
  return .text w

def includes : Behaviour := fun i => do
  let w ← this i
  let pat ← plainArgument (i.arg 0) "includes"
  let start ← clamped (i.arg 1) w.size 0
  return .bool (indexFrom w pat start).isSome

def startsWith : Behaviour := fun i => do
  let w ← this i
  let pat ← plainArgument (i.arg 0) "startsWith"
  let start ← clamped (i.arg 1) w.size 0
  return .bool (start + pat.size ≤ w.size && w.slice start (start + pat.size) == pat)

def endsWith : Behaviour := fun i => do
  let w ← this i
  let pat ← plainArgument (i.arg 0) "endsWith"
  let stop ← clamped (i.arg 1) w.size w.size
  return .bool (pat.size ≤ stop && w.slice (stop - pat.size) stop == pat)

def indexOf : Behaviour := fun i => do
  let w ← this i
  let pat ← toText (i.arg 0)
  let start ← clamped (i.arg 1) w.size 0
  return match indexFrom w pat start with
    | some k => .nat k
    | none => .int (-1)

def lastIndexOf : Behaviour := fun i => do
  let w ← this i
  let pat ← toText (i.arg 0)
  let x ← toNumber (i.arg 1)
  let x := if x.isNaN then Num.infinity else Num.trunc x
  if pat.size > w.size then return .int (-1)
  let most := w.size - pat.size
  let start := if x ≤ 0 then 0 else if x ≥ most.toFloat then most else x.toUInt64.toNat
  return match Wide.findLast w.units pat.units start with
    | some k => .nat k
    | none => .int (-1)

def localeCompare : Behaviour := fun i => do
  let a ← this i
  let b ← toText (i.arg 0)
  return .int (if a == b then 0 else if a.lt b then -1 else 1)

def pad (atStart : Bool) : Behaviour := fun i => do
  let w ← this i
  let length ← toLength (i.arg 0)
  let filler ← match i.arg 1 with
    | .undefined => pure (Wide.plain " ")
    | v => toText v
  if length ≤ w.size || filler.isEmpty then return .text w
  if length > 4294967295 then rangeError "Maximum string length exceeded"
  let missing := length - w.size
  let fill := (repeatText filler (missing / filler.size + 1)).slice 0 missing
  return .text (if atStart then fill ++ w else w ++ fill)

def repeat_ : Behaviour := fun i => do
  let w ← this i
  let x ← toIntegerOrInf (i.arg 0)
  if x < 0 || x.isInf || x * w.size.toFloat > 4294967295 then
    rangeError ("repeat count must be a positive finite number that doesn't overflow the maximum string length " ++
      "(2^32 - 1)")
  return .text (if w.isEmpty then w else repeatText w x.toUInt64.toNat)

def slice : Behaviour := fun i => do
  let w ← this i
  let start ← relative (i.arg 0) w.size 0
  let stop ← relative (i.arg 1) w.size w.size
  return .text (if start < stop then w.slice start stop else .plain "")

def substring : Behaviour := fun i => do
  let w ← this i
  let a ← clamped (i.arg 0) w.size 0
  let b ← clamped (i.arg 1) w.size w.size
  return .text (w.slice (min a b) (max a b))

/-- Hands a method on to the method that an argument has under a symbol. -/
def delegated (i : Invocation) (symbol : Nat) (args : Array Value) (otherwise : M Value) : M Value := do
  if i.this.isNullish then typeError "cannot convert null or undefined to Object"
  match i.arg 0 with
  | .undefined | .null => otherwise
  | v =>
    match ← Object.getMethod v (.symbol symbol) with
    | some f => call f v (#[i.this] ++ args)
    | none => otherwise

/-- Positions between which a separator stands. -/
def splitAt (us pat : Array UInt16) : Nat → Nat → List (Array UInt16)
  | 0, _ => []
  | n + 1, start =>
    match Wide.findFrom us pat start with
    | some k => us.extract start k :: splitAt us pat n (k + pat.size)
    | none => [us.extract start us.size]

def split : Behaviour := fun i => delegated i Sym.split #[i.arg 1] do
  let w ← toText i.this
  let limit ← match i.arg 1 with
    | .undefined => pure 4294967295
    | v => do pure (← toBits v).toNat
  let pat ← toText (i.arg 0)
  if limit == 0 then Object.newArray #[]
  else if (i.arg 0).isUndefined then Object.newArray #[.text w]
  else if w.isEmpty then Object.newArray (if pat.isEmpty then #[] else #[.text w])
  else
    let us := w.units
    let parts := if pat.isEmpty then us.toList.map fun u => #[u] else splitAt us pat.units (us.size + 1) 0
    Object.newArray ((parts.take limit).map fun p => Value.text (.ofUnits p)).toArray

/-- The text of a group, or nothing if it took no part. -/
def groupText : Value → M Wide
  | .undefined => return .plain ""
  | v => toText v

/-- What a replacement text says, with its marks filled in. -/
def expand (matched whole : Wide) (position : Nat) (groups : Array Value) (named : Value) (template : Wide) :
    M Wide := do
  let us := template.units
  go us (us.size + 1) 0 (.plain "")
where
  digit (u : Option UInt16) : Option Nat := u.bind fun u => if 48 ≤ u && u ≤ 57 then some (u.toNat - 48) else none
  go (us : Array UInt16) : Nat → Nat → Wide → M Wide
    | 0, _, acc => return acc
    | fuel + 1, k, acc => do
      if k ≥ us.size then return acc
      else
        let single := Wide.ofUnits #[us.getD k 0]
        if us.getD k 0 != 36 then go us fuel (k + 1) (acc ++ single)
        else match us[k + 1]? with
          | some 36 => go us fuel (k + 2) (acc ++ .plain "$")
          | some 38 => go us fuel (k + 2) (acc ++ matched)
          | some 96 => go us fuel (k + 2) (acc ++ whole.slice 0 position)
          | some 39 => go us fuel (k + 2) (acc ++ whole.slice (min (position + matched.size) whole.size) whole.size)
          | some 60 =>
            match named, Wide.findFrom us #[62] (k + 2) with
            | .undefined, _ => go us fuel (k + 1) (acc ++ single)
            | _, none => go us fuel (k + 1) (acc ++ single)
            | named, some stop =>
              let name := Wide.ofUnits (us.extract (k + 2) stop)
              let v ← Object.getV named (.ofWide name)
              go us fuel (stop + 1) (acc ++ (← groupText v))
          | next =>
            match digit next with
            | none => go us fuel (k + 1) (acc ++ single)
            | some a =>
              let two := (digit us[k + 2]?).map fun b => a * 10 + b
              match two with
              | some n =>
                if 1 ≤ n && n ≤ groups.size then
                  go us fuel (k + 3) (acc ++ (← groupText (groups.getD (n - 1) .undefined)))
                else if 1 ≤ a && a ≤ groups.size then
                  go us fuel (k + 2) (acc ++ (← groupText (groups.getD (a - 1) .undefined)))
                else go us fuel (k + 1) (acc ++ single)
              | none =>
                if 1 ≤ a && a ≤ groups.size then
                  go us fuel (k + 2) (acc ++ (← groupText (groups.getD (a - 1) .undefined)))
                else go us fuel (k + 1) (acc ++ single)

/-- Positions at which a text occurs, without overlaps. -/
def occurrences (us pat : Array UInt16) : Nat → Nat → List Nat
  | 0, _ => []
  | n + 1, start =>
    match Wide.findFrom us pat start with
    | some k => k :: occurrences us pat n (k + max pat.size 1)
    | none => []

def replaceWith (i : Invocation) (all : Bool) : M Value := do
  let w ← toText i.this
  let pat ← toText (i.arg 0)
  let f := i.arg 1
  let isFunction ← Object.isCallable f
  let template ← if isFunction then pure (.plain "") else toText f
  let found := occurrences w.units pat.units (w.size + 2) 0
  let found := if all then found else found.take 1
  let mut acc := Wide.plain ""
  let mut last := 0
  for k in found do
    let part ← if isFunction then toText (← call f .undefined #[.text pat, .nat k, .text w])
      else expand pat w k #[] .undefined template
    acc := acc ++ w.slice last k ++ part
    last := k + pat.size
  return .text (acc ++ w.slice last w.size)

def replace : Behaviour := fun i => delegated i Sym.replace #[i.arg 1] (replaceWith i false)

/-- Fails for regular expressions that are not global. -/
def requireGlobal (v : Value) (method : String) : M Unit := do
  match v with
  | .object r =>
    match ← Heap.kindOf r with
    | .regex _ =>
      let flags ← toText (← Object.getNamed r "flags")
      if !(flags.units.contains 103) then
        typeError s!"String.prototype.{method} called with a non-global RegExp argument"
    | _ => pure ()
  | _ => pure ()

def replaceAll : Behaviour := fun i => do
  requireGlobal (i.arg 0) "replaceAll"
  delegated i Sym.replace #[i.arg 1] (replaceWith i true)

/-- Makes a regular expression of the argument and hands on to its method. -/
def byRegex (i : Invocation) (symbol : Nat) (flags : Option String) : M Value := do
  let w ← toText i.this
  let args := match flags with
    | some f => #[i.arg 0, .str f]
    | none => #[i.arg 0]
  let r ← M.construct (.object Intrinsic.regex) args (.object Intrinsic.regex)
  Object.invoke r (.symbol symbol) #[.text w]

def match_ : Behaviour := fun i => delegated i Sym.match #[] (byRegex i Sym.match none)

def matchAll : Behaviour := fun i => do
  requireGlobal (i.arg 0) "matchAll"
  delegated i Sym.matchAll #[] (byRegex i Sym.matchAll (some "g"))

def search : Behaviour := fun i => delegated i Sym.search #[] (byRegex i Sym.search none)

def isWellFormed (w : Wide) : Bool := w.plain?.isSome

def toWellFormed (w : Wide) : Wide :=
  match w with
  | .plain _ => w
  | .broken _ => .ofCodePoints (w.codePoints.map fun n => if 0xD800 ≤ n && n < 0xE000 then 0xFFFD else n)

def normalize : Behaviour := fun i => do
  let w ← this i
  let form ← match i.arg 0 with
    | .undefined => pure "NFC"
    | v => toStr v
  match Text.NormalForm.named? form with
  | some form => return .text (.ofCodePoints (form.apply w.codePoints.toList).toArray)
  | none => rangeError "The normalization form should be one of NFC, NFD, NFKC, NFKD"

/-! ## The constructor -/

def construct : Behaviour := fun i => do
  let w ← if i.args.isEmpty then pure (Wide.plain "") else
    match i.arg 0 with
    | .symbol id => if i.isConstruct then toText (i.arg 0) else pure (.plain (← Object.keyText (.symbol id)))
    | v => toText v
  if i.isConstruct then i.create Intrinsic.stringPrototype (.wrapper (.text w)) else return .text w

def fromCharCode : Behaviour := fun i => do
  let mut us := #[]
  for v in i.args do us := us.push (UInt16.ofNat ((← toBits v).toNat % 65536))
  return .text (.ofUnits us)

def fromCodePoint : Behaviour := fun i => do
  let mut ns := #[]
  for v in i.args do
    let x ← toNumber v
    if !(x.floor == x) || x < 0 || x > 1114111 then
      rangeError s!"codepoint \x60{Decimal.scriptText x}\x60 is not a valid codepoint"
    ns := ns.push x.toUInt64.toNat
  return .text (.ofCodePoints ns)

def raw : Behaviour := fun i => do
  let cooked ← toObject (i.arg 0)
  let strings ← toObject (← Object.getNamed cooked "raw")
  let n ← lengthOf strings
  let mut acc := Wide.plain ""
  for k in [0:n] do
    acc := acc ++ (← toText (← Object.get strings (.ofNat k)))
    if k + 1 < n && k + 1 < i.args.size then acc := acc ++ (← toText (i.arg (k + 1)))
  return .text acc

def thisString (i : Invocation) : M Value := do
  match i.this with
  | .text _ => return i.this
  | .object r =>
    match ← Heap.kindOf r with
    | .wrapper (.text w) => return .text w
    | _ => typeError "'this' is not a string"
  | _ => typeError "'this' is not a string"

def mapped (f : Wide → Wide) : Behaviour := fun i => return .text (f (← this i))

def build : Build Unit := do
  let c := Intrinsic.string
  let p := Intrinsic.stringPrototype
  Build.constructor c p "String" 1 construct
  Build.setKind p (.wrapper (.str ""))
  Build.method c "raw" 1 raw
  Build.method c "fromCharCode" 1 fromCharCode
  Build.method c "fromCodePoint" 1 fromCodePoint
  Build.method p "charAt" 1 charAt
  Build.method p "charCodeAt" 1 charCodeAt
  Build.method p "codePointAt" 1 codePoint
  Build.method p "toString" 0 thisString
  Build.method p "concat" 1 concat
  Build.method p "repeat" 1 repeat_
  Build.method p "slice" 2 slice
  Build.method p "startsWith" 1 startsWith
  Build.method p "endsWith" 1 endsWith
  Build.method p "includes" 1 includes
  Build.method p "indexOf" 1 indexOf
  Build.method p "lastIndexOf" 1 lastIndexOf
  Build.method p "localeCompare" 1 localeCompare
  Build.method p "match" 1 match_
  Build.method p "normalize" 0 normalize
  Build.method p "padEnd" 1 (pad false)
  Build.method p "padStart" 1 (pad true)
  Build.method p "trim" 0 (mapped fun w => trimEnd (trimStart w))
  Build.method p "trimStart" 0 (mapped trimStart)
  Build.method p "trimEnd" 0 (mapped trimEnd)
  Build.method p "toLowerCase" 0 (mapped (mapChars Text.lower))
  Build.method p "toUpperCase" 0 (mapped (mapChars Text.upper))
  Build.method p "toLocaleLowerCase" 0 (mapped (mapChars Text.lower))
  Build.method p "toLocaleUpperCase" 0 (mapped (mapChars Text.upper))
  Build.method p "substring" 2 substring
  Build.method p "split" 2 split
  Build.method p "valueOf" 0 thisString
  Build.method p "matchAll" 1 matchAll
  Build.method p "replace" 2 replace
  Build.method p "replaceAll" 2 replaceAll
  Build.symbolMethod p Sym.iterator "[Symbol.iterator]" 0 fun i => do
    let w ← this i
    return .object (← Heap.allocKind (some Intrinsic.textIteratorPrototype) (.textIterator w 0))
  Build.method p "search" 1 search
  Build.method p "at" 1 at_
  Build.method p "isWellFormed" 0 fun i => return .bool (isWellFormed (← this i))
  Build.method p "toWellFormed" 0 (mapped toWellFormed)

end Builtin.Texts

end Playpen.Engine
