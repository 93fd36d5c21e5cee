import Playpen.Engine.Builtin.String
import Playpen.Engine.Regex.Match

/-!
# Built-in functions: regular expressions
-/

namespace Playpen.Engine

open M
open Playpen.Text (Wide)

namespace Builtin.Regexes

def lastIndexKey : PropKey := .text (.plain "lastIndex")

/-- The regular expression of a pattern. -/
def alloc (proto : Ref) (source flags : String) : M Ref := do
  (Regex.flagsFault? [] flags.toList).forM (raise .syntaxError ·)
  match Regex.compile source flags with
  | .error e => raise .syntaxError s!"failed to create matcher: {e}"
  | .ok r =>
    let o ← Heap.allocKind (some proto) (.regex r)
    Heap.setSlot o lastIndexKey (.data (.nat 0) ⟨true, false, false⟩)
    return o

def regexOf (v : Value) : M (Option Regex) := do
  match v with
  | .object r =>
    match ← Heap.kindOf r with
    | .regex x => return some x
    | _ => return none
  | _ => return none

def isRegex (v : Value) : M Bool := do
  match v with
  | .object r =>
    match ← Object.get r (.symbol Sym.match) with
    | .undefined => return (← regexOf v).isSome
    | m => return m.truthy
  | _ => return false

def construct : Behaviour := fun i => do
  let pattern := i.arg 0
  let flags := i.arg 1
  let isPattern ← isRegex pattern
  let keeps ← do
    if !i.isConstruct && isPattern && flags.isUndefined then
      pure ((← Object.getV pattern (.ofString "constructor")).same (.object i.self))
    else pure false
  if keeps then return pattern
  else
    let (source, flags) ← do
      match ← regexOf pattern with
      | some x => pure (Value.str x.source, if flags.isUndefined then Value.str x.flags else flags)
      | none =>
        if isPattern then
          let f ← if flags.isUndefined then Object.getV pattern (.ofString "flags") else pure flags
          pure (← Object.getV pattern (.ofString "source"), f)
        else pure (pattern, flags)
    let text (v : Value) : M String := do
      match v with
      | .undefined => return ""
      | v => toStr v
    let proto ← i.proto Intrinsic.regexPrototype
    return .object (← alloc proto (← text source) (← text flags))

def thisRegex (i : Invocation) (name : String) : M (Ref × Regex) := do
  match i.this with
  | .object r =>
    match ← Heap.kindOf r with
    | .regex x => return (r, x)
    | _ => typeError s!"RegExp.prototype.{name} method called on incompatible value"
  | _ => typeError s!"RegExp.prototype.{name} method called on incompatible value"

/-- The first match from a position on. -/
def searchFrom (x : Regex) (units : Array UInt16) (sticky : Bool) :
    Nat → Nat → Option (Array (Option (Nat × Nat)))
  | 0, _ => none
  | n + 1, pos =>
    if pos > units.size then none
    else match Regex.matchAt x units pos with
      | some g => some g
      | none => if sticky then none else searchFrom x units sticky n (pos + 1)

/-- The array that tells of a match. -/
def matchResult (x : Regex) (w : Wide) (groups : Array (Option (Nat × Nat))) : M Value := do
  let text (g : Option (Nat × Nat)) : Value := match g with
    | some (a, b) => .text (w.slice a b)
    | none => .undefined
  let start := ((groups.getD 0 none).map (·.1)).getD 0
  let a ← Heap.allocKind (some Intrinsic.arrayPrototype) (.array (groups.map text) groups.size true)
  Heap.setData a (.ofString "index") (.nat start)
  Heap.setData a (.ofString "input") (.text w)
  let named (f : Option (Nat × Nat) → M Value) : M Value := do
    if x.names.isEmpty then return .undefined
    else
      let o ← Heap.allocKind none .ordinary
      for (name, k) in x.names do Heap.setData o (.ofString name) (← f (groups.getD k none))
      return .object o
  Heap.setData a (.ofString "groups") (← named fun g => return text g)
  if x.flags.toList.contains 'd' then
    let span (g : Option (Nat × Nat)) : M Value := match g with
      | some (a, b) => Object.newArray #[.nat a, .nat b]
      | none => return .undefined
    let spans ← groups.mapM span
    let indices ← Heap.allocKind (some Intrinsic.arrayPrototype) (.array spans spans.size true)
    Heap.setData indices (.ofString "groups") (← named span)
    Heap.setData a (.ofString "indices") (.object indices)
  return .object a

def execBuiltin (r : Ref) (x : Regex) (w : Wide) : M Value := do
  let lastIndex ← toLength (← Object.get r lastIndexKey)
  let has (c : Char) : Bool := x.flags.toList.contains c
  let tracks := has 'g' || has 'y'
  let start := if tracks then lastIndex else 0
  let units := w.units
  match searchFrom x units (has 'y') (units.size + 2) start with
  | none =>
    if tracks then Object.put r lastIndexKey (.nat 0)
    return .null
  | some groups =>
    let stop := ((groups.getD 0 none).map (·.2)).getD 0
    if tracks then Object.put r lastIndexKey (.nat stop)
    matchResult x w groups

/-- A match, by the object's own method `exec` if it has one. -/
def exec (r : Ref) (w : Wide) : M Value := do
  let f ← Object.getNamed r "exec"
  if ← Object.isCallable f then
    match ← call f (.object r) #[.text w] with
    | .object o => return .object o
    | .null => return .null
    | _ => typeError "regexp exec returned neither object nor null"
  else
    match ← regexOf (.object r) with
    | some x => execBuiltin r x w
    | none => typeError "RegExpExec called with invalid value"

def thisObject (i : Invocation) (name : String) : M Ref := do
  match i.this with
  | .object r => return r
  | _ => typeError s!"RegExp.prototype.{name} method called on incompatible value"

/-- The position behind another, by whole characters if that is asked for. -/
def advance (w : Wide) (k : Nat) (unicode : Bool) : Nat :=
  if unicode then
    match Builtin.Texts.codePointAt w.units k with
    | some (_, n) => k + n
    | none => k + 1
  else k + 1

def flagsOf (r : Ref) : M (List UInt16) := return (← toText (← Object.getNamed r "flags")).units.toList

def isUnicode (flags : List UInt16) : Bool := flags.contains 117 || flags.contains 118

/-- An empty match must not be found again. -/
def passEmpty (r : Ref) (w : Wide) (unicode : Bool) : M Unit := do
  let k ← toLength (← Object.get r lastIndexKey)
  Object.put r lastIndexKey (.nat (advance w k unicode))

/-- All matches of a global expression. -/
def allMatches (r : Ref) (w : Wide) (unicode : Bool) : Nat → Array Ref → M (Array Ref)
  | 0, acc => return acc
  | n + 1, acc => do
    match ← exec r w with
    | .object m =>
      if (← toText (← Object.get m (.index 0))).isEmpty then passEmpty r w unicode
      allMatches r w unicode n (acc.push m)
    | _ => return acc

def match_ : Behaviour := fun i => do
  let r ← thisObject i "match"
  let w ← toText (i.arg 0)
  let flags ← flagsOf r
  if !flags.contains 103 then exec r w
  else
    Object.put r lastIndexKey (.nat 0)
    let found ← allMatches r w (isUnicode flags) (w.size + 2) #[]
    if found.isEmpty then return .null
    let texts ← found.mapM fun m => do return Value.text (← toText (← Object.get m (.index 0)))
    Object.newArray texts

/-- The constructor that copies of a regular expression are made with. -/
def species (r : Ref) : M Value := do
  match ← Object.getNamed r "constructor" with
  | .object c =>
    match ← Object.get c (.symbol Sym.species) with
    | .undefined | .null => return .object Intrinsic.regex
    | s => return s
  | _ => return .object Intrinsic.regex

def matchAll : Behaviour := fun i => do
  let r ← thisObject i "matchAll"
  let w ← toText (i.arg 0)
  let c ← species r
  let flags ← toText (← Object.getNamed r "flags")
  match ← M.construct c #[.object r, .text flags] c with
  | .object copy =>
    Object.put copy lastIndexKey (.nat (← toLength (← Object.get r lastIndexKey)))
    let fs := flags.units.toList
    return .object (← Heap.allocKind (some Intrinsic.regexIteratorPrototype)
      (.regexIterator (.object copy) w (fs.contains 103) (isUnicode fs) false))
  | _ => typeError "RegExp.prototype.matchAll method called on incompatible value"

def replace : Behaviour := fun i => do
  let r ← thisObject i "[Symbol.replace]"
  let w ← toText (i.arg 0)
  let f := i.arg 1
  let isFunction ← Object.isCallable f
  let template ← if isFunction then pure (.plain "") else toText f
  let flags ← flagsOf r
  let found ← do
    if flags.contains 103 then
      Object.put r lastIndexKey (.nat 0)
      allMatches r w (isUnicode flags) (w.size + 2) #[]
    else match ← exec r w with
      | .object m => pure #[m]
      | _ => pure #[]
  let mut acc := Wide.plain ""
  let mut last := 0
  for m in found do
    let n ← lengthOf m
    let matched ← toText (← Object.get m (.index 0))
    let x ← toIntegerOrInf (← Object.getNamed m "index")
    let position := if x ≤ 0 then 0 else min x.toUInt64.toNat w.size
    let mut groups : Array Value := #[]
    for k in [1:n] do
      let g ← match ← Object.get m (.ofNat k) with
        | .undefined => pure Value.undefined
        | v => do pure (.text (← toText v))
      groups := groups.push g
    let named ← Object.getNamed m "groups"
    let text ← do
      if isFunction then
        let args := #[Value.text matched] ++ groups ++ #[.nat position, .text w] ++
          (if named.isUndefined then #[] else #[named])
        toText (← call f .undefined args)
      else
        let named ← match named with
          | .undefined => pure Value.undefined
          | v => do pure (.object (← toObject v))
        Builtin.Texts.expand matched w position groups named template
    if position ≥ last then
      acc := acc ++ w.slice last position ++ text
      last := position + matched.size
  return .text (if last ≥ w.size then acc else acc ++ w.slice last w.size)

def search : Behaviour := fun i => do
  let r ← thisObject i "[Symbol.search]"
  let w ← toText (i.arg 0)
  let before ← Object.get r lastIndexKey
  if !before.identical (.nat 0) then Object.put r lastIndexKey (.nat 0)
  let result ← exec r w
  let now ← Object.get r lastIndexKey
  if !now.identical before then Object.put r lastIndexKey before
  match result with
  | .object m => Object.getNamed m "index"
  | _ => return .int (-1)

def split : Behaviour := fun i => do
  let r ← thisObject i "[Symbol.split]"
  let w ← toText (i.arg 0)
  let c ← species r
  let flags ← toText (← Object.getNamed r "flags")
  let unicode := isUnicode flags.units.toList
  let newFlags := if flags.units.contains 121 then flags else flags ++ .plain "y"
  let limit ← match i.arg 1 with
    | .undefined => pure 4294967295
    | v => do pure (← toBits v).toNat
  match ← M.construct c #[.object r, .text newFlags] c with
  | .object splitter =>
    if limit == 0 then Object.newArray #[]
    else if w.isEmpty then
      match ← exec splitter w with
      | .null => Object.newArray #[.text w]
      | _ => Object.newArray #[]
    else
      let rec go : Nat → Nat → Nat → Array Value → M (Array Value)
        | 0, _, _, acc => return acc
        | n + 1, p, q, acc => do
          if q ≥ w.size then return acc.push (.text (w.slice p w.size))
          Object.put splitter lastIndexKey (.nat q)
          match ← exec splitter w with
          | .object m =>
            let e := min (← toLength (← Object.get splitter lastIndexKey)) w.size
            if e == p then go n p (advance w q unicode) acc
            else
              let acc := acc.push (.text (w.slice p q))
              if acc.size == limit then return acc
              let count ← lengthOf m
              let mut acc := acc
              for k in [1:count] do
                if acc.size < limit then acc := acc.push (← Object.get m (.ofNat k))
              if acc.size == limit then return acc
              go n e e acc
          | _ => go n p (advance w q unicode) acc
      Object.newArray (← go (2 * w.size + 2) 0 0 #[])
  | _ => typeError "RegExp.prototype[Symbol.split] method called on incompatible value"

/-- A pattern in a form that can stand between slashes. -/
def escapedSource (source : String) : String :=
  if source == "" then "(?:)" else go source.toList false ""
where
  go : List Char → Bool → String → String
    | [], _, acc => acc
    | '\\' :: c :: cs, inClass, acc => go cs inClass ((acc.push '\\').push c)
    | '\n' :: cs, inClass, acc => go cs inClass (acc ++ "\\n")
    | '/' :: cs, false, acc => go cs false (acc ++ "\\/")
    | '[' :: cs, _, acc => go cs true (acc.push '[')
    | ']' :: cs, _, acc => go cs false (acc.push ']')
    | c :: cs, inClass, acc => go cs inClass (acc.push c)

/-- The properties that tell of flags, with the flags. -/
def flagNames : List (String × Char) := [
  ("hasIndices", 'd'), ("global", 'g'), ("ignoreCase", 'i'), ("multiline", 'm'), ("dotAll", 's'),
  ("unicode", 'u'), ("unicodeSets", 'v'), ("sticky", 'y')]

def isPrototype (i : Invocation) : Bool := i.this.same (.object Intrinsic.regexPrototype)

def build : Build Unit := do
  let c := Intrinsic.regex
  let p := Intrinsic.regexPrototype
  Build.constructor c p "RegExp" 2 construct
  Build.species c
  Build.method p "test" 1 fun i => do
    let r ← thisObject i "test"
    let w ← toText (i.arg 0)
    match ← exec r w with
    | .null => return .bool false
    | _ => return .bool true
  Build.method p "exec" 1 fun i => do
    let (r, x) ← thisRegex i "exec"
    execBuiltin r x (← toText (i.arg 0))
  Build.method p "toString" 0 fun i => do
    let r ← thisObject i "toString"
    let source ← toText (← Object.getNamed r "source")
    let flags ← toText (← Object.getNamed r "flags")
    return .text (.plain "/" ++ source ++ .plain "/" ++ flags)
  Build.symbolMethod p Sym.match "[Symbol.match]" 1 match_
  Build.symbolMethod p Sym.matchAll "[Symbol.matchAll]" 1 matchAll
  Build.symbolMethod p Sym.replace "[Symbol.replace]" 2 replace
  Build.symbolMethod p Sym.search "[Symbol.search]" 1 search
  Build.symbolMethod p Sym.split "[Symbol.split]" 2 split
  flagNames.forM fun (name, flag) => Build.getter p name fun i => do
    if isPrototype i then return .undefined
    let (_, x) ← thisRegex i name
    return .bool (x.flags.toList.contains flag)
  Build.getter p "flags" fun i => do
    let r ← thisObject i "flags"
    let mut text := ""
    for (name, flag) in flagNames do
      if (← Object.getNamed r name).truthy then text := text.push flag
    return .str text
  Build.getter p "source" fun i => do
    if isPrototype i then return .str "(?:)"
    let (_, x) ← thisRegex i "source"
    return .str (escapedSource x.source)

end Builtin.Regexes

end Playpen.Engine
