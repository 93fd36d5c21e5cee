import Playpen.Engine.Machine
import Playpen.Text.Property

/-!
# Regular expressions: reading patterns
-/

namespace Playpen.Engine.Regex

/-- What is known while a pattern is read. -/
structure Reading where
  rest : List Char
  /-- Groups opened so far. -/
  groups : Nat
  names : List (String × Nat)
  /-- All groups of the pattern. -/
  total : Nat
  unicode : Bool
  /-- Names of groups anywhere in the pattern; if there are any, `\k` refers to one. -/
  allNames : List String

abbrev Read := StateT Reading (Except String)

def peek : Read (Option Char) := return (← get).rest.head?

def drop (n : Nat) : Read Unit := modify fun s => { s with rest := s.rest.drop n }

def next : Read (Option Char) := do
  let c ← peek
  drop 1
  return c

def lookingAt (text : String) : Read Bool := return text.toList.isPrefixOf (← get).rest

def eat (text : String) : Read Bool := do
  if ← lookingAt text then
    drop text.length
    return true
  else return false

/-! ## Sets of characters -/

open Text.Property (Ranges)

def digits : Ranges := #[(48, 57)]

def wordChars : Ranges := #[(48, 57), (65, 90), (95, 95), (97, 122)]

def blanks : Ranges := #[(9, 13), (32, 32), (160, 160), (0x1680, 0x1680), (0x2000, 0x200A), (0x2028, 0x2029),
  (0x202F, 0x202F), (0x205F, 0x205F), (0x3000, 0x3000), (0xFEFF, 0xFEFF)]

/-- All characters that ordered ranges leave out. -/
def complement (rs : Ranges) : Ranges :=
  let sorted := rs.toList.mergeSort fun a b => a.1 ≤ b.1
  let (acc, start) := sorted.foldl (fun (acc : Ranges × Nat) r =>
    (if r.1 > acc.2 then acc.1.push (acc.2, r.1 - 1) else acc.1, max acc.2 (r.2 + 1))) (#[], 0)
  if start ≤ 0x10FFFF then acc.push (start, 0x10FFFF) else acc

/-! ## Escapes -/

def hexDigits (n : Nat) : Read (Option Nat) := do
  let ds := (← get).rest.take n
  if ds.length == n && ds.all Text.isHexDigit then
    drop n
    return some (ds.foldl (fun acc c => acc * 16 + Text.hexValue c) 0)
  else return none

/-- `\u` has been taken. -/
def unicodeEscape : Read Nat := do
  if (← get).unicode && (← lookingAt "\x7b") then
    let ds := ((← get).rest.drop 1).takeWhile (· != '}')
    drop (ds.length + 2)
    if ds.isEmpty || !ds.all Text.isHexDigit then throw "Invalid unicode escape"
    let n := ds.foldl (fun acc c => acc * 16 + Text.hexValue c) 0
    if n > 0x10FFFF then throw "Invalid unicode escape"
    return n
  else
    match ← hexDigits 4 with
    | none => if (← get).unicode then throw "Invalid unicode escape" else return 117
    | some n =>
      -- two escapes may stand for one character
      if (← get).unicode && 0xD800 ≤ n && n < 0xDC00 && (← lookingAt "\\u") then
        let s ← get
        drop 2
        match ← hexDigits 4 with
        | some low =>
          if 0xDC00 ≤ low && low < 0xE000 then return (n - 0xD800) * 0x400 + (low - 0xDC00) + 0x10000
          else
            set s
            return n
        | none =>
          set s
          return n
      else return n

/-- What an escape stands for: a character, or a set. -/
inductive Escaped where
  | char (n : Nat)
  | set (rs : Ranges)

def classEscape (c : Char) : Read (Option Ranges) := do
  match c with
  | 'd' => return some digits
  | 'D' => return some (complement digits)
  | 'w' => return some wordChars
  | 'W' => return some (complement wordChars)
  | 's' => return some blanks
  | 'S' => return some (complement blanks)
  | _ =>
    if (c == 'p' || c == 'P') && (← get).unicode then
      if !(← eat "\x7b") then throw "Invalid property name"
      let name := (← get).rest.takeWhile (· != '}')
      drop (name.length + 1)
      match Text.Property.ranges? (String.ofList name) with
      | some rs => return some (if c == 'p' then rs else complement rs)
      | none => throw "Invalid property name"
    else return none

/-- An escape outside of references; the backslash and the letter have been taken. -/
def escape (c : Char) : Read Escaped := do
  match ← classEscape c with
  | some rs => return .set rs
  | none =>
    match c with
    | 't' => return .char 9
    | 'n' => return .char 10
    | 'v' => return .char 11
    | 'f' => return .char 12
    | 'r' => return .char 13
    | 'c' =>
      match ← peek with
      | some l =>
        if Text.isAsciiLetter l then
          drop 1
          return .char (l.toNat % 32)
        else
          modify fun s => { s with rest := 'c' :: s.rest }
          return .char 92
      | none =>
        modify fun s => { s with rest := 'c' :: s.rest }
        return .char 92
    | 'x' =>
      match ← hexDigits 2 with
      | some n => return .char n
      | none => if (← get).unicode then throw "Invalid character escape" else return .char 120
    | 'u' => return .char (← unicodeEscape)
    | c =>
      if c.isDigit && c.toNat < 56 then
        -- an octal number
        let more := ((← get).rest.takeWhile fun d => '0' ≤ d && d ≤ '7').take (if c.toNat ≤ 51 then 2 else 1)
        drop more.length
        return .char ((c :: more).foldl (fun acc d => acc * 8 + (d.toNat - 48)) 0)
      else if (← get).unicode && Text.isIdContinue c && c != '-' then throw "Invalid character escape"
      else return .char c.toNat

/-! ## Classes -/

/-- A member of a class in brackets. -/
def classAtom : Read Escaped := do
  match ← next with
  | none => throw "Unbalanced bracket"
  | some '\\' =>
    match ← next with
    | none => throw "Unbalanced bracket"
    | some 'b' => return .char 8
    | some '-' => return .char 45
    | some c => escape c
  | some c => return .char c.toNat

def classMembers : Nat → Ranges → Read Ranges
  | 0, acc => return acc
  | fuel + 1, acc => do
    if ← eat "]" then return acc
    else
      let a ← classAtom
      let ranged ← do
        let r := (← get).rest
        pure (r.head? == some '-' && r[1]? != some ']' && r.length > 1)
      match a, ranged with
      | .char x, true =>
        drop 1
        match ← classAtom with
        | .char y =>
          if y < x then throw "Range values reversed, start char code is greater than end char code."
          classMembers fuel (acc.push (x, y))
        | .set rs => classMembers fuel ((acc.push (x, x)).push (45, 45) ++ rs)
      | .char x, false => classMembers fuel (acc.push (x, x))
      | .set rs, _ => classMembers fuel (acc ++ rs)

/-! ## Terms -/

def number : Read (Option Nat) := do
  let ds := (← get).rest.takeWhile Text.isDigit
  if ds.isEmpty then return none
  else
    drop ds.length
    return some (ds.foldl (fun acc c => acc * 10 + (c.toNat - 48)) 0)

/-- Bounds in braces. -/
def braces : Read (Option (Nat × Option Nat)) := do
  let s ← get
  drop 1
  match ← number with
  | none =>
    set s
    return none
  | some least =>
    if ← eat "\x7d" then return some (least, some least)
    else if ← eat "," then
      if ← eat "\x7d" then return some (least, none)
      else match ← number with
        | some most => if ← eat "\x7d" then return some (least, some most) else give s
        | none => give s
    else give s
where
  give (s : Reading) : Read (Option (Nat × Option Nat)) := do
    set s
    return none

def quantifier : Read (Option (Nat × Option Nat)) := do
  match ← peek with
  | some '*' =>
    drop 1
    return some (0, none)
  | some '+' =>
    drop 1
    return some (1, none)
  | some '?' =>
    drop 1
    return some (0, some 1)
  | some c => if c == Char.ofNat 123 then braces else return none
  | none => return none

def groupName : Read String := do
  let name := (← get).rest.takeWhile (· != '>')
  drop (name.length + 1)
  if name.isEmpty then throw "Invalid token at named capture group identifier"
  return String.ofList name

/-- Reference, escape or set behind a backslash. -/
def escapedAtom : Read RegexNode := do
  match ← next with
  | none => throw "Incomplete escape"
  | some 'b' => return .wordBoundary false
  | some 'B' => return .wordBoundary true
  | some c =>
    let s ← get
    if c == 'k' && (!s.allNames.isEmpty || s.unicode) then
      if ← eat "<" then
        let name ← groupName
        if !(s.allNames.contains name) then throw s!"Backreference to invalid named capture group: {name}"
        return .namedBackreference name
      else throw "Unexpected end of named backreference"
    else if '1' ≤ c && c ≤ '9' then
      let ds := c :: s.rest.takeWhile Text.isDigit
      let n := ds.foldl (fun acc d => acc * 10 + (d.toNat - 48)) 0
      if n ≤ s.total then
        drop (ds.length - 1)
        return .backreference n
      else if s.unicode then throw "Invalid character escape"
      else single (← escape c)
    else single (← escape c)
where
  single : Escaped → Read RegexNode
    | .char n => return .char n
    | .set rs => return .set false rs

mutual

def disjunction : Nat → Read RegexNode
  | 0 => throw "Pattern too deep"
  | fuel + 1 => do
    let a ← alternative fuel .empty
    if ← eat "|" then return .alt a (← disjunction fuel) else return a

/-- Terms one after the other. -/
def alternative : Nat → RegexNode → Read RegexNode
  | 0, acc => return acc
  | fuel + 1, acc => do
    match ← peek with
    | none => return acc
    | some '|' => return acc
    | some ')' => return acc
    | some _ =>
      let first := (← get).groups + 1
      let (r, repeatable) ← atom fuel
      let last := (← get).groups + 1
      let r ← do
        match ← quantifier with
        | none => pure r
        | some (least, most) =>
          if !repeatable then throw "Quantifier not allowed here"
          if most.any (· < least) then throw "Invalid quantifier"
          let greedy := !(← eat "?")
          pure (.repeat least most greedy r first last)
      alternative fuel (match acc with
        | .empty => r
        | acc => .seq acc r)

/-- An atom, and whether it may be repeated. -/
def atom : Nat → Read (RegexNode × Bool)
  | 0 => throw "Pattern too deep"
  | fuel + 1 => do
    match ← next with
    | some '^' => return (.lineStart, false)
    | some '$' => return (.lineEnd, false)
    | some '.' => return (.any, true)
    | some '[' =>
      let negated ← eat "^"
      return (.set negated (← classMembers ((← get).rest.length + 1) #[]), true)
    | some '\\' =>
      let r ← escapedAtom
      return (r, match r with
        | .wordBoundary _ => false
        | _ => true)
    | some '(' =>
      if ← eat "?:" then return (← closed fuel, true)
      else if ← eat "?=" then return (.look true false (← closed fuel), !(← get).unicode)
      else if ← eat "?!" then return (.look true true (← closed fuel), !(← get).unicode)
      else if ← eat "?<=" then return (.look false false (← closed fuel), false)
      else if ← eat "?<!" then return (.look false true (← closed fuel), false)
      else
        let n := (← get).groups + 1
        modify fun s => { s with groups := n }
        if ← eat "?<" then
          let name ← groupName
          if (← get).names.any (·.1 == name) then throw "Duplicate capture group name"
          modify fun s => { s with names := s.names ++ [(name, n)] }
        else if ← lookingAt "?" then throw "Invalid token at named capture group identifier"
        return (.group n (← closed fuel), true)
    | some c =>
      if c == '*' || c == '+' || c == '?' then throw "Invalid atom character"
      else if c == ')' then throw "Unbalanced parenthesis"
      else if (← get).unicode && (c == ']' || c == Char.ofNat 123 || c == Char.ofNat 125) then
        throw "Invalid atom character"
      else return (.char c.toNat, true)
    | none => throw "Unexpected end"

/-- A disjunction up to its closing parenthesis. -/
def closed : Nat → Read RegexNode
  | 0 => throw "Pattern too deep"
  | fuel + 1 => do
    let r ← disjunction fuel
    if ← eat ")" then return r else throw "Unbalanced parenthesis"

end

/-- How many groups a pattern has, and the names of those that have one. -/
def countGroups : List Char → Bool → Nat × List String
  | [], _ => (0, [])
  | '\\' :: _ :: cs, inClass => countGroups cs inClass
  | '[' :: cs, _ => countGroups cs true
  | ']' :: cs, _ => countGroups cs false
  | '(' :: '?' :: '<' :: c :: cs, false =>
    let (n, names) := countGroups (c :: cs) false
    if c == '=' || c == '!' then (n, names)
    else (n + 1, String.ofList ((c :: cs).takeWhile (· != '>')) :: names)
  | '(' :: '?' :: cs, false => countGroups cs false
  | '(' :: cs, false =>
    let (n, names) := countGroups cs false
    (n + 1, names)
  | _ :: cs, inClass => countGroups cs inClass

/-- What is wrong with flags. -/
def flagsFault? : List Char → List Char → Option String
  | seen, [] =>
    if seen.contains 'u' && seen.contains 'v' then some "cannot use both 'u' and 'v' flags" else none
  | seen, c :: cs =>
    if !("dgimsuvy".toList.contains c) then some s!"invalid regular expression flag {c}"
    else if seen.contains c then some s!"repeated regular expression flag {c}"
    else flagsFault? (c :: seen) cs

/-- Reads a pattern. -/
def compile (source flags : String) : Except String Regex :=
  let unicode := flags.toList.any fun c => c == 'u' || c == 'v'
  let cs := source.toList
  let (total, names) := countGroups cs false
  let p : Read RegexNode := do
    let r ← disjunction (4 * cs.length + 20)
    match ← peek with
    | some _ => throw "Unbalanced parenthesis"
    | none => return r
  match p.run ⟨cs, 0, [], total, unicode, names⟩ with
  | .ok (r, s) => .ok ⟨source, flags, r, s.groups, s.names⟩
  | .error e => .error e

/-- What is wrong with a literal, if anything. -/
def literalFault? (source flags : String) : Option String :=
  (flagsFault? [] flags.toList) <|> match compile source flags with
    | .ok _ => none
    | .error e => some s!"Invalid regular expression literal: {e}"

end Playpen.Engine.Regex
