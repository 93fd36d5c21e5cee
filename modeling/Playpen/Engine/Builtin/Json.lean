import Playpen.Engine.Builtin.Array
import Playpen.Json.Read

/-!
# Built-in functions: JSON
-/

namespace Playpen.Engine

open M
open Playpen.Text (Wide)

namespace Builtin.JsonText

/-! ## Writing -/

def hexDigit (n : Nat) : Char := Char.ofNat (if n < 10 then 48 + n else 87 + n)

def hex4 (n : Nat) : List Char := [3, 2, 1, 0].map fun k => hexDigit (n / Nat.pow 16 k % 16)

def escaped (n : Nat) : List Char :=
  match n with
  | 8 => "\\b".toList
  | 9 => "\\t".toList
  | 10 => "\\n".toList
  | 12 => "\\f".toList
  | 13 => "\\r".toList
  | 34 => "\\\"".toList
  | 92 => "\\\\".toList
  | n => if n < 32 || (0xD800 ≤ n && n < 0xE000) then '\\' :: 'u' :: hex4 n else [Char.ofNat n]

/-- A text in quotes. -/
def quote (w : Wide) : String :=
  (w.codePoints.foldl (fun acc n => (escaped n).foldl String.push acc) "\"").push '"'

/-- How a value is written. -/
structure Layout where
  replacer : Option Value
  /-- The keys that are written, if not all are. -/
  keys : Option (List PropKey)
  gap : String

/-- The form of a value that is written: its own method and the replacer may change it. -/
def prepared (l : Layout) (holder : Value) (k : PropKey) (v : Value) : M Value := do
  let ask (v : Value) : M Value := do
    let f ← Object.getV v (.ofString "toJSON")
    if ← Object.isCallable f then call f v #[.text k.wide] else return v
  let v ← match v with
    | .object _ | .bigint _ => ask v
    | v => pure v
  let v ← match l.replacer with
    | some f => call f holder #[.text k.wide, v]
    | none => pure v
  match v with
  | .object r =>
    match ← Heap.kindOf r with
    | .wrapper (.number _) => return .number (← toNumber v)
    | .wrapper (.text _) => return .text (← toText v)
    | .wrapper (.bool b) => return .bool b
    | .wrapper (.bigint n) => return .bigint n
    | _ => return v
  | v => return v

/-- Texts between brackets, each on a line of its own if there is a gap. -/
def bracketed (l : Layout) (indent : String) (opening closing : String) (parts : Array String) : String :=
  if parts.isEmpty then opening ++ closing
  else
    let inner := indent ++ l.gap
    let separator := if l.gap == "" then "," else ",\n" ++ inner
    let body := (parts.foldl (fun (acc : String × Bool) p => (if acc.2 then acc.1 ++ separator ++ p else p, true))
      ("", false)).1
    if l.gap == "" then opening ++ body ++ closing
    else opening ++ "\n" ++ inner ++ body ++ "\n" ++ indent ++ closing

/-- The text of a member; nothing for what has no text. -/
def property (l : Layout) (indent : String) (stack : List Ref) (holder : Value) (k : PropKey) (v : Value) :
    Nat → M (Option String)
  | 0 => Object.exhausted
  | n + 1 => do
    match ← prepared l holder k v with
    | .null => return some "null"
    | .bool b => return some (if b then "true" else "false")
    | .text w => return some (quote w)
    | .number x => return some (if Num.isFinite x then Decimal.scriptText x else "null")
    | .bigint _ => typeError "cannot serialize bigint to JSON"
    | .object r =>
      if ← Object.isCallable (.object r) then return none
      else if stack.contains r then typeError "cyclic object value"
      else if ← Object.isArray 1000 (.object r) then
        let length ← lengthOf r
        let mut parts := #[]
        for i in [0:length] do
          let key := PropKey.ofNat i
          let p ← property l (indent ++ l.gap) (r :: stack) (.object r) key (← Object.get r key) n
          parts := parts.push (p.getD "null")
        return some (bracketed l indent "[" "]" parts)
      else
        let keys ← match l.keys with
          | some ks => pure ks
          | none =>
            (← Object.keys r).filterM fun k => do
              if k.isSymbol then return false
              else match ← Object.getOwn r k with
                | some s => return s.isEnumerable
                | none => return false
        let mut parts := #[]
        for key in keys do
          match ← property l (indent ++ l.gap) (r :: stack) (.object r) key (← Object.get r key) n with
          | some p => parts := parts.push (quote key.wide ++ (if l.gap == "" then ":" else ": ") ++ p)
          | none => pure ()
        return some (bracketed l indent "\x7b" "\x7d" parts)
    | _ => return none

/-- Nesting that is followed at most. -/
def depth : Nat := 3000

/-- Keys that an array of a replacer names. -/
def keysOf (items : Array Value) : M (List PropKey) := do
  let mut keys := []
  for v in items do
    let key ← match v with
      | .text w => pure (some (PropKey.ofWide w))
      | .number _ => do pure (some (PropKey.ofWide (← toText v)))
      | .object r =>
        match ← Heap.kindOf r with
        | .wrapper (.number _) | .wrapper (.text _) => pure (some (PropKey.ofWide (← toText v)))
        | _ => pure none
      | _ => pure none
    match key with
    | some k => if !keys.contains k then keys := keys ++ [k]
    | none => pure ()
  return keys

def gapOf (v : Value) : M String := do
  let v ← match v with
    | .object r =>
      match ← Heap.kindOf r with
      | .wrapper (.number _) => do pure (.number (← toNumber v))
      | .wrapper (.text _) => do pure (.text (← toText v))
      | _ => pure v
    | v => pure v
  match v with
  | .number _ =>
    let x ← toIntegerOrInf v
    let n := if x < 1 then 0 else if x > 10 then 10 else x.toUInt64.toNat
    return "".pushn ' ' n
  | .text w => return (w.slice 0 10).display
  | _ => return ""

def write (l : Layout) (v : Value) : M Value := do
  let holder ← Object.newObject
  Heap.setData holder (.ofString "") v
  match ← property l "" [] (.object holder) (.ofString "") v depth with
  | some s => return .str s
  | none => return .undefined

/-- The text of a value in its plainest form. -/
def compact (v : Value) : M Value := write ⟨none, none, ""⟩ v

def stringify : Behaviour := fun i => do
  let replacer := i.arg 1
  let (f, keys) ← do
    if ← Object.isCallable replacer then pure (some replacer, none)
    else if ← Object.isArray 1000 replacer then
      pure (none, some (← keysOf (← Object.listOf replacer)))
    else pure (none, none)
  write ⟨f, keys, ← gapOf (i.arg 2)⟩ (i.arg 0)

/-! ## Reading -/

def skipBlanks (cs : List Char) : List Char := cs.dropWhile Json.Reader.isBlank

/-- The rest of a text that is known to be well-formed. -/
def readText : Nat → List Char → String → String × List Char
  | 0, cs, acc => (acc, cs)
  | n + 1, cs, acc =>
    match cs with
    | '"' :: rest => (acc, rest)
    | '\\' :: 'u' :: a :: b :: c :: d :: rest =>
      let unit (ds : List Char) : Nat := ds.foldl (fun v c => v * 16 + Text.hexValue c) 0
      let hi := unit [a, b, c, d]
      if 0xD800 ≤ hi && hi < 0xDC00 then
        match rest with
        | '\\' :: 'u' :: e :: f :: g :: h :: rest' =>
          readText n rest' (acc.push (Char.ofNat ((hi - 0xD800) * 0x400 + (unit [e, f, g, h] - 0xDC00) + 0x10000)))
        | _ => readText n rest acc
      else readText n rest (acc.push (Char.ofNat hi))
    | '\\' :: c :: rest =>
      let c := match c with
        | 'b' => Char.ofNat 8
        | 'f' => Char.ofNat 12
        | 'n' => '\n'
        | 'r' => '\r'
        | 't' => '\t'
        | c => c
      readText n rest (acc.push c)
    | c :: rest => readText n rest (acc.push c)
    | [] => (acc, [])

mutual

/-- The value of a text that is known to be well-formed, and what follows it. -/
def readValue : Nat → List Char → M (Value × List Char)
  | 0, cs => return (.undefined, cs)
  | n + 1, cs => do
    match skipBlanks cs with
    | '"' :: rest =>
      let (s, rest) := readText (rest.length + 1) rest ""
      return (.str s, rest)
    | 't' :: rest => return (.bool true, rest.drop 3)
    | 'f' :: rest => return (.bool false, rest.drop 4)
    | 'n' :: rest => return (.null, rest.drop 3)
    | '[' :: rest =>
      match skipBlanks rest with
      | ']' :: rest => return (← Object.newArray #[], rest)
      | rest =>
        let (items, rest) ← readItems n rest #[]
        return (← Object.newArray items, rest)
    | c :: rest =>
      if c == Char.ofNat 123 then
        let o ← Object.newObject
        match skipBlanks rest with
        | '"' :: rest =>
          let rest ← readMembers n o rest
          return (.object o, rest)
        | rest => return (.object o, rest.drop 1)
      else
        let digits := (c :: rest).takeWhile fun c => Text.isDigit c || "+-.eE".toList.contains c
        return (.number ((Decimal.ofText? (String.ofList digits)).getD Value.nan), (c :: rest).drop digits.length)
    | [] => return (.undefined, [])

def readItems : Nat → List Char → Array Value → M (Array Value × List Char)
  | 0, cs, acc => return (acc, cs)
  | n + 1, cs, acc => do
    let (v, rest) ← readValue n cs
    match skipBlanks rest with
    | ',' :: rest => readItems n rest (acc.push v)
    | rest => return (acc.push v, rest.drop 1)

/-- Members behind the quote of the first key. -/
def readMembers : Nat → Ref → List Char → M (List Char)
  | 0, _, cs => return cs
  | n + 1, o, cs => do
    let (k, rest) := readText (cs.length + 1) cs ""
    let (v, rest) ← readValue n ((skipBlanks rest).drop 1)
    Object.create o (.ofString k) v
    match skipBlanks rest with
    | ',' :: rest => readMembers n o ((skipBlanks rest).drop 1)
    | rest => return rest.drop 1

end

/-- Lets a function change the values from the innermost on. -/
def revive (f : Value) (holder : Ref) (k : PropKey) : Nat → M Value
  | 0 => Object.exhausted
  | n + 1 => do
    let v ← Object.get holder k
    match v with
    | .object r =>
      let keys ← if ← Object.isArray 1000 v then do
          pure ((List.range (← lengthOf r)).map PropKey.ofNat)
        else
          (← Object.keys r).filterM fun k => do
            if k.isSymbol then return false
            else match ← Object.getOwn r k with
              | some s => return s.isEnumerable
              | none => return false
      for key in keys do
        match ← revive f r key n with
        | .undefined => discard (Object.delete r key)
        | w => discard (Object.define r key (.data w .all))
    | _ => pure ()
    call f (.object holder) #[.text k.wide, v]

def parse : Behaviour := fun i => do
  let w ← toText (i.arg 0)
  let text := w.display
  match Json.parse (some 128) text with
  | .error fault => raise .syntaxError fault.message
  | .ok _ =>
    let cs := text.toList
    let (v, _) ← readValue (2 * cs.length + 10) cs
    if ← Object.isCallable (i.arg 1) then
      let holder ← Object.newObject
      Heap.setData holder (.ofString "") v
      revive (i.arg 1) holder (.ofString "") 1000
    else return v

def build : Build Unit := do
  let o := Intrinsic.json
  Build.setProto o (some Intrinsic.objectPrototype)
  Build.method o "parse" 2 parse
  Build.functionAt Intrinsic.jsonStringify "stringify" 3 stringify
  Build.hidden o "stringify" (.object Intrinsic.jsonStringify)
  Build.tag o "JSON"

end Builtin.JsonText

end Playpen.Engine
