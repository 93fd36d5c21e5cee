import Playpen.Script.Lexer
import Playpen.Script.Names

/-!
# Parsing: state and small steps

A parser looks one token ahead.  What it complains about is either fatal, which ends the parse, or
noted, which lets it go on.  A module has two readers, who complain of different things; it is read
once for both, and where one of them ends and the other goes on, the reading goes on and the last
words of the one are kept.  The grammar's functions call each other through a record of the few
that are recursive, `Grammar`, which `Playpen.Script.Parser.Program` ties to itself under a bound on
the depth of nesting.
-/

namespace Playpen.Script

open Playpen.Text (Wide)

/-- What the surroundings allow. -/
structure Flags where
  /-- `in` is an operator here. -/
  allowIn : Bool
  /-- `await` is an operator here. -/
  async : Bool
  /-- `yield` is an operator here. -/
  generator : Bool
  /-- `return` may stand here. -/
  inFunction : Bool
  strict : Bool
  /-- Only declared, with nothing left of it. -/
  ambient : Bool
  /-- Closing brackets that are due. -/
  open_ : Nat
  /-- `?` after a parenthesis belongs to a conditional that has begun. -/
  inConditional : Bool
  /-- `super(…)` may stand here. -/
  superCall : Bool
  /-- `super.name` may stand here. -/
  superMember : Bool
  /-- Labels of the statements around; the flag marks those of loops. -/
  labels : List (String × Bool)
  /-- `continue` may stand here. -/
  inLoop : Bool
  /-- `break` may stand here. -/
  inSwitch : Bool
  deriving Inhabited

/-- What is known so far of the function being read. -/
structure Facts where
  /-- Names it and the functions inside mention. -/
  mentions : List String
  /-- Names that the functions inside mention. -/
  inner : List String
  usesArguments : Bool
  callsEval : Bool
  deriving Inhabited

def Facts.none : Facts := ⟨[], [], false, false⟩

/-- What the engine ends a module with that the transpiler reads on, and the regular expressions read
up to there. -/
structure Refusal where
  complaint : Complaint
  regexes : List (String × String × Place)

/-- State of a parse. -/
structure ParseState where
  src : Array Char
  mode : Lexer.Mode
  token : Token
  /-- Where the last token taken ended. -/
  lastStop : Place
  /-- Comments before the current token. -/
  comments : List Comment
  /-- Complaints about texts that are no tokens, last first. -/
  badTokens : List Complaint
  /-- Complaints that let the parse go on, last first. -/
  notes : List Complaint
  /-- Where the engine has ended. -/
  refused : Option Refusal
  /-- All complaints of the transpiler, if it has ended. -/
  abandoned : Option (List Complaint)
  flags : Flags
  facts : Facts
  /-- Names of types, and of values that leave nothing. -/
  typeNames : List String
  /-- Members of enumerations with known values, by enumeration. -/
  enums : List (String × List (String × Literal))
  /-- Names declared so far at the level of the program or of a namespace. -/
  declared : List String
  /-- Places of members that only a pattern may hold and that no pattern has taken yet. -/
  covers : List Place
  /-- Regular expressions read so far, with their flags and places, last first. -/
  regexes : List (String × String × Place)
  /-- Private names mentioned and not declared by the classes read so far. -/
  hidden : List String
  /-- What the engine complains about once everything has been read. -/
  late : Option String
  /-- Constructs that cannot be lowered, last first. -/
  unsupported : List String
  /-- Names declared by `import name = …` at the level of the program, with the names they are made of,
  last first. -/
  aliases : List (String × List String)
  /-- Whether an import or export has been read, also one that leaves nothing. -/
  sawModule : Bool
  /-- How many blocks with resources have been lowered. -/
  resourceBlocks : Nat
  deriving Inhabited

/-- A step of parsing. -/
abbrev Parse := EStateM Complaint ParseState

namespace Parse

def token : Parse Token := fun s => .ok s.token s

def mode : Parse Lexer.Mode := fun s => .ok s.mode s

def flags : Parse Flags := fun s => .ok s.flags s

def isTyped : Parse Bool := fun s => .ok s.mode.typed s

/-- Whether the engine alone reads the source. -/
def isScript : Parse Bool := fun s => .ok s.mode.isScript s

def note (c : Complaint) : Parse Unit := fun s => .ok () { s with notes := c :: s.notes }

/-- A complaint that only the engine has, which it ends with. -/
def refuse (c : Complaint) : Parse Unit := fun s =>
  if s.mode.typed then .ok () s
  else if s.mode.isModule then .ok () { s with refused := s.refused <|> some ⟨c, s.regexes⟩ }
  else .error c s

/-- What the engine ends with, and the transpiler notes in words of its own. -/
def complainAs (brief : String) (c : Complaint) : Parse Unit := do
  refuse c
  note { c with brief := brief }

/-- A complaint that the transpiler notes and the engine ends with. -/
def complain (brief detail : String) (place : Place) : Parse Unit :=
  complainAs brief ⟨brief, detail, some place⟩

/-- Makes the token that begins at `i` the current one. -/
def setToken (s : ParseState) (i : Nat) : ParseState :=
  let (t, gap, complaints) := Lexer.next s.mode s.src i
  { s with
    token := t
    lastStop := i
    comments := gap.comments.reverse
    badTokens := complaints.reverse ++ s.badTokens }

/-- The engine ends at the first text that is no token. -/
def checkToken : Parse Unit := fun s =>
  match s.badTokens with
  | c :: _ => refuse c s
  | [] => .ok () s

/-- Goes on to the next token. -/
def advance : Parse Unit := do
  modify fun s => setToken s s.token.stop
  checkToken

/-- Replaces the current token by another reading of the same place. -/
def rescan (scan : Array Char → Nat → Lexer.Scan) : Parse Unit := do
  modify fun s =>
    let r := scan s.src s.token.start
    { s with
      token := { s.token with kind := r.kind, stop := r.stop }
      badTokens := r.complaints.reverse ++ s.badTokens }
  checkToken

/-- The comments before the current token, as what stands at the end of a body; they are kept where
the source is written out again. -/
def endComments : Parse (List Stmt) := do
  let s ← get
  return if s.mode.typed && !s.comments.isEmpty then [.comments s.comments] else []

def fail (c : Complaint) : Parse α := fun s => .error c s

/-- The complaint that a token cannot stand where it stands; the engine says what it was reading. -/
def unexpectedComplaint (t : Token) (context : String) : Complaint :=
  let detail := if t.isStop then "abrupt end" else s!"unexpected token '{t.kind.detail}', {context}"
  ⟨"Unexpected token", detail, if t.isStop then none else some t.start⟩

def unexpected (context : String) : Parse α := fun s => .error (unexpectedComplaint s.token context) s

/-- The complaint that something else was expected. -/
def expectedComplaint (t : Token) (wanted context : String) : Complaint :=
  let detail := if t.isStop then "abrupt end" else s!"expected token '{wanted}', got '{t.kind.detail}' in {context}"
  ⟨s!"Expected `{wanted}` but found `{t.kind.brief}`", detail, if t.isStop then none else some t.start⟩

def expected (wanted context : String) : Parse α := fun s => .error (expectedComplaint s.token wanted context) s

def isOp (o : String) : Parse Bool := fun s => .ok (s.token.isOp o) s

def isWord (w : String) : Parse Bool := fun s => .ok (s.token.isWord w) s

/-- Takes an operator if it is the current token. -/
def eat (o : String) : Parse Bool := do
  if ← isOp o then
    advance
    return true
  else return false

def eatWord (w : String) : Parse Bool := do
  if ← isWord w then
    advance
    return true
  else return false

/-- Takes an operator that has to be there. -/
def expect (o context : String) : Parse Unit := do
  if ← isOp o then advance else expected o context

def expectWord (w context : String) : Parse Unit := do
  if ← isWord w then advance else expected w context

/-- Runs a parser and takes everything back if it fails. -/
def attempt (p : Parse α) : Parse (Option α) := fun s =>
  match p s with
  | .ok a s' => .ok (some a) s'
  | .error _ _ => .ok none s

/-- Runs a parser and takes everything back. -/
def lookahead (p : Parse α) : Parse (Option α) := fun s =>
  match p s with
  | .ok a _ => .ok (some a) s
  | .error _ _ => .ok none s

/-- What a look-ahead finds, `false` if it fails. -/
def sees (p : Parse Bool) : Parse Bool := return (← lookahead p).getD false

/-- All that the transpiler complains of when it cannot read on. -/
def verdict (s : ParseState) (c : Complaint) : List Complaint :=
  -- a text that is no token has been complained about already
  let isBad := match s.token.kind with
    | .bad => true
    | _ => false
  match s.badTokens with
  | last :: before =>
    if isBad || s.token.isStop then before.reverse ++ s.notes.reverse ++ [last]
    else s.badTokens.reverse ++ s.notes.reverse ++ (if s.flags.open_ > 0 then [] else [c])
  | [] => s.notes.reverse ++ [c]

/-- Runs a parser of which the engine takes everything back if it fails; the transpiler ends. -/
def orAbandon (p : Parse α) : Parse (Option α) := fun s =>
  match p s with
  | .ok a s' => .ok (some a) s'
  | .error c s' => .ok none { s with abandoned := s.abandoned <|> some (verdict s' c) }

/-- Runs a parser in other surroundings. -/
def withFlags (f : Flags → Flags) (p : Parse α) : Parse α := do
  let old ← flags
  modify fun s => { s with flags := f s.flags }
  let a ← p
  modify fun s => { s with flags := old }
  return a

/-- Inside brackets, where `in` is an operator. -/
def inside (p : Parse α) : Parse α :=
  withFlags (fun f => { f with allowIn := true, open_ := f.open_ + 1, inConditional := false }) p

/-- Whether a statement may end here. -/
def atStatementEnd : Parse Bool := do
  let t ← token
  return t.isOp ";" || t.isOp "\x7d" || t.isStop || t.newline

/-- The end of a statement: a semicolon, or a place where one may be left out. -/
def semicolon (context : String) : Parse Unit := do
  if ← isOp ";" then advance
  else if ← atStatementEnd then pure ()
  else
    let t ← token
    let c := expectedComplaint t ";" context
    fail { c with brief := "Expected a semicolon or an implicit semicolon after a statement, but found none" }

/-! ## Names -/

/-- A mention of a name by the function being read. -/
def mention (name : String) : Parse Unit := modify fun s =>
  let f := s.facts
  { s with facts := { f with
    mentions := if f.mentions.contains name then f.mentions else name :: f.mentions
    usesArguments := f.usesArguments || name == "arguments" } }

/-- A mention of a private name. -/
def mentionHidden (name : String) : Parse Unit := modify fun s => { s with hidden := name :: s.hidden }

def markEval : Parse Unit := modify fun s => { s with facts := { s.facts with callsEval := true } }

def union (xs ys : List String) : List String := xs.foldl (fun acc x => if acc.contains x then acc else x :: acc) ys

/-- Reads a function with facts of its own, which it passes on to the function around. -/
def withFacts (arrow : Bool) (p : Parse α) : Parse (α × Facts) := do
  let outer := (← get).facts
  modify fun s => { s with facts := Facts.none }
  let a ← p
  let f := (← get).facts
  modify fun s => { s with facts := {
    mentions := union f.mentions outer.mentions
    inner := union f.mentions outer.inner
    usesArguments := outer.usesArguments || (arrow && f.usesArguments)
    callsEval := outer.callsEval || f.callsEval } }
  return (a, f)

/-- Whether a word is no name because the code is strict, which only the engine minds. -/
def isStrictWord (f : Flags) (name : String) : Bool := f.strict && strictWords.contains name

/-- Whether a word may name a variable here. -/
def isBindable (m : Lexer.Mode) (f : Flags) (name : String) : Bool :=
  !isReserved name &&
    !(name == "await" && (f.async || m.isModule)) &&
    !(name == "yield" && f.generator) &&
    !(m.isScript && isStrictWord f name)

/-- The name the current token gives to a variable, if it can. -/
def bindable? : Parse (Option String) := fun s =>
  match s.token.kind with
  | .word n => .ok (if isBindable s.mode s.flags n then some n else none) s
  | _ => .ok none s

/-- The engine does not take a word for a name in strict code, and complains of it with `c`. -/
def refuseStrict (name : String) (c : Complaint) : Parse Unit := do
  if isStrictWord (← flags) name then refuse c

/-- The name of a variable. -/
def bindingName (context : String) : Parse String := do
  let t ← token
  match ← bindable? with
  | some n =>
    refuseStrict n (unexpectedComplaint t context)
    advance
    return n
  | none =>
    match t.kind with
    | .word n =>
      if isReserved n then unexpected context
      else
        complain (if n == "await" then s!"Cannot use `{n}` as an identifier in an async context"
            else s!"Cannot use `{n}` as an identifier in a generator context")
          s!"unexpected token '{n}', {context}" t.start
        advance
        return n
    | _ => unexpected context

/-- Runs a parser until the closing bracket, with commas between; the bracket is not taken. -/
def separated (closer : String) (context : String) (item : Parse α) : Parse (List α) := do
  let rec go : Nat → List α → Parse (List α)
    | 0, acc => return acc.reverse
    | fuel + 1, acc => do
      let t ← token
      if t.isOp closer || t.isStop then return acc.reverse
      else
        let acc := (← item) :: acc
        if ← isOp "," then
          advance
          go fuel acc
        else if (← isOp closer) || (← token).isStop then return acc.reverse
        else expected "," context
  go ((← get).src.size + 1) []

/-- Runs a parser as long as a condition holds. -/
def repeatWhile (cond : Parse Bool) (item : Parse α) : Parse (List α) := do
  let rec go : Nat → List α → Parse (List α)
    | 0, acc => return acc.reverse
    | fuel + 1, acc => do
      if ← cond then go fuel ((← item) :: acc) else return acc.reverse
  go ((← get).src.size + 1) []

end Parse

/-- What a function is to the text around it. -/
inductive FuncRole where
  | declaration | expression | method | getter | setter
  /-- A constructor, and whether its class has a parent. -/
  | constructor (derived : Bool)
  deriving DecidableEq

/-- How a function is introduced. -/
structure FuncHead where
  name : Option String
  async : Bool
  generator : Bool
  role : FuncRole
  /-- Where its text begins. -/
  start : Place

/-- Where a statement stands. -/
inductive Position where
  /-- Among the statements of a program, a body or a block. -/
  | item
  /-- Alone, as an arm of a condition or behind a label, where the engine takes a function, too. -/
  | arm
  /-- Alone, as the body of a loop or of `with`. -/
  | sole
  deriving DecidableEq

/-- The recursive functions of the grammar. -/
structure Grammar where
  /-- A comma-separated expression. -/
  expr : Parse Expr
  /-- An expression without commas. -/
  assignment : Parse Expr
  unary : Parse Expr
  /-- A type, which leaves nothing. -/
  type : Parse Unit
  /-- A target of a binding. -/
  binding : Parse Pattern
  statement : Position → Parse (List Stmt)
  /-- A function from its parameters on; one without a body leaves nothing. -/
  func : FuncHead → Parse (Option Func)
  /-- A class from behind its keyword on. -/
  classTail : List Expr → Place → Parse Class
  markup : Parse Expr

end Playpen.Script
