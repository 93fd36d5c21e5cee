import Playpen.Script.Parser.Disposal
import Playpen.Script.Parser.Pattern

/-!
# Parsing: functions

Parameters, bodies, and the functions made of them.  A constructor's parameter with a modifier is
also a property of the new object; its assignment is put at the start of the body, or behind the
call of the parent's constructor.
-/

namespace Playpen.Script.Function

open Parse

def accessWords : List String := ["public", "private", "protected", "readonly", "override"]

/-- Steps over the modifiers of a parameter and says whether there were any. -/
def parameterModifiers : Parse Bool := do
  let isModifier : Parse Bool := do
    match (← token).kind with
    | .word n =>
      if accessWords.contains n then
        sees do
          advance
          match (← token).kind with
          | .word _ => return true
          | .op o => return o == "[" || o == "\x7b"
          | _ => return false
      else return false
    | _ => return false
  return !(← repeatWhile isModifier advance).isEmpty

/-- The names of variables that are properties at the same time. -/
def propertyNames : Pattern → List String
  | .ident n => [n]
  | .withDefault (.ident n) _ => [n]
  | _ => []

/-- A parameter, and whether it is also a property; a declared type of `this` is no parameter. -/
def parameter (g : Grammar) : Parse (Option (Pattern × Bool)) := do
  let typed ← isTyped
  if ← isOp "@" then
    discard (repeatWhile (isOp "@") do
      advance
      discard g.unary)
  if ← eat "..." then
    let p ← g.binding
    if typed then Types.annotation g
    if !(← isOp ")") && !(← token).isStop then
      let t ← token
      if t.isOp "," then
        complain "A rest parameter must be last in a parameter list" "expected token ')'" t.start
    return some (.rest p, false)
  else if typed && (← isWord "this") then
    advance
    Types.annotation g
    return none
  else
    let isProperty ← if typed then parameterModifiers else pure false
    let p ← g.binding
    if typed then
      discard (eat "?")
      Types.annotation g
    if ← eat "=" then return some (.withDefault p (← inside g.assignment), isProperty)
    else return some (p, isProperty)

/-- Parameters with their parentheses, and those that are properties. -/
def parameters (g : Grammar) : Parse (List Pattern × List String) := do
  expect "(" "function parameters"
  let ps ← inside (separated ")" "function parameters" (parameter g))
  expect ")" "function parameters"
  let ps := ps.filterMap id
  return (ps.map (·.1), ps.flatMap fun (p, isProperty) => if isProperty then propertyNames p else [])

/-- Whether parameters are names only. -/
def areSimple (ps : List Pattern) : Bool := ps.all fun
  | .ident _ => true
  | _ => false

/-- Whether the current text stands alone as a statement. -/
def isDirective : Parse Bool := do
  match (← token).kind with
  | .text _ _ =>
    sees do
      advance
      let t ← token
      match t.kind with
      | .stop => return true
      | .op o =>
        return o == ";" || o == "\x7d" || (t.newline && ["\x7b", "@", "!", "~", "++", "--"].contains o)
      | .word n => return t.newline && n != "in" && n != "instanceof" && n != "as" && n != "satisfies"
      | _ => return t.newline
  | _ => return false

/-- Texts at the start of a body; `use strict` makes what follows strict. -/
def directives (simple : Bool) : Parse (List String) :=
  repeatWhile isDirective do
    let s ← get
    let raw := Lexer.textOf s.src (s.token.start + 1) (s.token.stop - 1)
    if raw == "use strict" then
      if !simple then
        refuse ⟨"", "Illegal 'use strict' directive in function with non-simple parameter list", none⟩
      modify fun s => { s with flags := { s.flags with strict := true } }
    advance
    semicolon "directive"
    return raw

/-- Statements up to a closing brace or the end. -/
def statements (g : Grammar) : Parse (List Stmt) := do
  let more : Parse Bool := do
    let t ← token
    return !(t.isOp "\x7d" || t.isStop)
  return (← repeatWhile more (g.statement .item)).flatten

/-- A body with its braces: directives, statements, and whether it is strict. -/
def body (g : Grammar) (simple : Bool) : Parse (List String × List Stmt × Bool) := do
  expect "\x7b" "function body"
  let ds ← directives simple
  let stmts ← inside (statements g)
  let strict := (← flags).strict
  let comments ← endComments
  expect "\x7d" "function body"
  return (ds, (← Disposal.block stmts) ++ comments, strict)

/-- The assignment that makes a parameter a property. -/
def propertyAssignment (name : String) : Stmt :=
  .expr (.assign (.target (.member .this name 0)) (.ident name) 0)

def isSuperCall : Stmt → Bool
  | .expr (.superCall _ _) => true
  | _ => false

/-- Puts assignments behind the call of the parent's constructor, or first. -/
def withProperties (names : List String) (stmts : List Stmt) : List Stmt :=
  let added := names.map propertyAssignment
  match stmts.span (!isSuperCall ·) with
  | (before, call :: after) => before ++ call :: added ++ after
  | _ => added ++ stmts

def emptyInfo : FuncInfo := {
  name := none, async := false, generator := false, arrow := false, strict := false
  start := 0, stop := 0, bodyPlace := 0, innerNames := [], usesArguments := false, callsEval := false }

/-- What is known of a function that has just been read. -/
def info (head : FuncHead) (arrow strict : Bool) (bodyPlace : Place) (f : Facts) : Parse FuncInfo := do
  return {
    name := head.name, async := head.async, generator := head.generator, arrow := arrow
    strict := strict, start := head.start, stop := (← get).lastStop, bodyPlace := bodyPlace
    innerNames := f.inner, usesArguments := f.usesArguments, callsEval := f.callsEval }

/-- The surroundings inside a function. -/
def inner (async generator : Bool) (f : Flags) : Flags :=
  { f with
    async := async, generator := generator, inFunction := true, allowIn := true, inConditional := false
    labels := [], inLoop := false, inSwitch := false }

/-- Where `super` may stand inside a function of a role. -/
def withSuper (role : FuncRole) (f : Flags) : Flags :=
  match role with
  | .declaration | .expression => { f with superCall := false, superMember := false }
  | .method | .getter | .setter => { f with superCall := false, superMember := true }
  | .constructor derived => { f with superCall := derived, superMember := true }

/-- Parameters may not be declared again, nor, where `unique` is set, twice. -/
def checkParameters (unique : Bool) (ps : List Pattern) (stmts : List Stmt) (place : Place) : Parse Unit := do
  if !(← isTyped) then
    if (unique || !areSimple ps) && Names.hasRepetition (Names.ofPatterns ps) then
      refuse ⟨"", "Duplicate parameter name not allowed in this context", some place⟩
    match Names.redeclared? ps stmts with
    | some n => refuse ⟨"", s!"formal parameter \x60{n}\x60 declared in lexically declared names", some place⟩
    | none => pure ()

/-- A function from its type parameters on; one without a body leaves nothing. -/
def func (g : Grammar) (head : FuncHead) : Parse (Option Func) := do
  let typed ← isTyped
  let (r, facts) ← withFacts false <| withFlags (fun f => withSuper head.role (inner head.async head.generator f)) do
    if typed then Types.parameters g
    let paramsPlace := (← token).stop
    let (ps, names) ← parameters g
    if typed then Types.returnAnnotation g
    let place := (← token).start
    if typed && !(← isOp "\x7b") then
      semicolon "function"
      return none
    else
      let (ds, stmts, strict) ← body g (areSimple ps)
      let unique := strict || !(head.role = .declaration || head.role = .expression)
      checkParameters unique ps stmts paramsPlace
      return some (ps, names, ds, stmts, strict, place)
  match r with
  | none => return none
  | some (ps, names, ds, stmts, strict, place) =>
    let stmts := if names.isEmpty then stmts else withProperties names stmts
    return some (.mk (← info head false strict place facts) ps ds stmts none)

/-- The body of an arrow function, from behind the arrow on. -/
def arrowBody (g : Grammar) (ps : List Pattern) :
    Parse (List String × List Stmt × Option Expr × Bool × Place) := do
  let place := (← token).start
  if ← isOp "\x7b" then
    let (ds, stmts, strict) ← body g (areSimple ps)
    return (ds, stmts, none, strict, place)
  else
    let e ← withFlags (fun f => { f with inFunction := true }) g.assignment
    return ([], [], some e, (← flags).strict, place)

/-- The arrow, before which no line may end. -/
def arrowSign : Parse Unit := do
  let t ← token
  if t.newline then
    complainAs "Line terminator not permitted before arrow" (unexpectedComplaint t "arrow function")
  expect "=>" "arrow function"

/-- The parameters of an arrow function in parentheses, the arrow included. -/
def arrowHead (g : Grammar) : Parse (List Pattern) := do
  let typed ← isTyped
  if typed then Types.parameters g
  let (ps, _) ← parameters g
  if typed then Types.returnAnnotation g
  arrowSign
  return ps

/-- An arrow function whose parameters are read by `params`, the arrow included. -/
def arrow (g : Grammar) (async : Bool) (start : Place) (params : Parse (List Pattern)) : Parse Func := do
  let outer ← flags
  let paramsPlace := (← token).stop
  let ((ps, ds, stmts, value, strict, place), facts) ← withFacts true do
    let ps ← withFlags (fun f => { f with async := async || f.async }) params
    let (ds, stmts, value, strict, place) ← withFlags
      (fun f => { inner async false f with allowIn := outer.allowIn, inConditional := outer.inConditional })
      (arrowBody g ps)
    return (ps, ds, stmts, value, strict, place)
  checkParameters true ps stmts paramsPlace
  let i ← info ⟨none, async, false, .expression, start⟩ true strict place facts
  return .mk i ps ds stmts value

end Playpen.Script.Function
