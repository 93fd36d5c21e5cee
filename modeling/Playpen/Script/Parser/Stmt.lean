import Playpen.Script.Parser.Lowered

/-!
# Parsing: statements
-/

namespace Playpen.Script.Statement

open Parse

/-- One statement where exactly one has to stand. -/
def single (g : Grammar) (position : Position) : Parse Stmt := do
  match ← g.statement position with
  | [s] => return s
  | [] => return .empty
  | ss => return .block ss

/-- The body of a loop. -/
def loopBody (g : Grammar) : Parse Stmt :=
  withFlags (fun f => { f with inLoop := true, inSwitch := true }) (single g .sole)

/-- Statements with their braces. -/
def block (g : Grammar) (context : String) : Parse (List Stmt) := do
  expect "\x7b" context
  let start := (← token).start
  let stmts ← inside (Function.statements g)
  expect "\x7d" context
  if !(← isTyped) then
    match Names.blockFault? (← flags).strict stmts with
    | some fault => refuse ⟨"", fault, some start⟩
    | none => pure ()
  Disposal.block stmts

/-- An expression in parentheses. -/
def condition (g : Grammar) (context : String) : Parse Expr := do
  expect "(" context
  let e ← inside g.expr
  expect ")" context
  return e

/-! ## Declarations -/

def isName : Pattern → Bool
  | .ident _ => true
  | _ => false

/-- One declared target. -/
def declarator (g : Grammar) (kind : VarKind) (inLoop : Bool) : Parse Pattern := do
  let start := (← token).start
  if (← isWord "let") && kind != .var then
    refuse ⟨"", "'let' is disallowed as a lexically bound name", some start⟩
  let p ← g.binding
  if ← isTyped then
    if (← isOp "!") && !(← token).newline then advance
    Types.annotation g
  if ← eat "=" then return .initial p (← g.assignment)
  else
    let inHead ← if inLoop then pure ((← isWord "of") || (← isWord "in")) else pure false
    if !inHead && !(← flags).ambient then
      if !isName p then
        complain "Missing initializer in destructuring declaration"
          "Expected initializer for destructuring declaration" start
      else match kind with
        | .const =>
          complain "Missing initializer in const declaration" "Expected initializer for const declaration" start
        | .using | .awaitUsing =>
          complain "Using declarations must have an initializer." "Expected initializer for using declaration" start
        | _ => pure ()
    return p

def declarators (g : Grammar) (kind : VarKind) (inLoop : Bool) : Parse (List Pattern) := do
  let p ← declarator g kind inLoop
  let more ← repeatWhile (isOp ",") do
    advance
    declarator g kind inLoop
  return p :: more

/-- The end of a declaration. -/
def declarationEnd (kind : VarKind) : Parse Unit := do
  if kind = .var then semicolon "variable statement"
  else if ← isOp ";" then advance
  else if ← atStatementEnd then pure ()
  else
    let t ← token
    let detail := s!"expected one of ';' or 'line terminator', got '{t.kind.detail}' in lexical declaration binding list"
    fail ⟨"Expected a semicolon or an implicit semicolon after a statement, but found none", detail, some t.start⟩

/-- Names that targets declare. -/
def boundNames : Nat → Pattern → List String
  | 0, _ => []
  | fuel + 1, p =>
    match p with
    | .ident n => [n]
    | .array items => items.flatMap (boundNames fuel)
    | .object fields => fields.flatMap (boundNames fuel)
    | .withDefault p _ => boundNames fuel p
    | .rest p => boundNames fuel p
    | .field _ _ p => boundNames fuel p
    | .initial p _ => boundNames fuel p
    | .target _ => []
    | .hole => []

/-- A variable declaration from behind its keyword on. -/
def declaration (g : Grammar) (kind : VarKind) : Parse (List Stmt) := do
  let ps ← declarators g kind false
  declarationEnd kind
  (ps.flatMap (boundNames 500)).forM Lowered.declare
  if (← flags).ambient then return [] else return [.declare kind ps]

/-- A function declaration whose `function` is the current token. -/
def functionDecl (g : Grammar) (async : Bool) (start : Place) (nameNeeded : Bool) : Parse (List Stmt) := do
  advance
  let generator ← eat "*"
  let t ← token
  let name ←
    match t.kind with
    | .word n =>
      if isReserved n then
        refuse (unexpectedComplaint t "function declaration")
        pure none
      else pure (some (← bindingName "function declaration"))
    | _ =>
      if nameNeeded && t.isOp "(" then
        let detail := s!"unexpected token '(', expected identifier"
        complain "Expected function name" detail t.start
      pure none
  match ← g.func ⟨name, async, generator, .declaration, start⟩ with
  | some f =>
    name.forM Lowered.declare
    if (← flags).ambient then return [] else return [.func f]
  | none => return []

/-- A class declaration from behind `class` on. -/
def classDecl (g : Grammar) (decorators : List Expr) (start : Place) : Parse (List Stmt) := do
  let c ← g.classTail decorators start
  c.info.name.forM Lowered.declare
  if (← flags).ambient then return [] else return [.class c]

/-! ## Declarations that only types have -/

def typeAlias (g : Grammar) : Parse (List Stmt) := do
  let name ← bindingName "type alias"
  modify fun s => { s with typeNames := name :: s.typeNames }
  Types.parameters g
  expect "=" "type alias"
  g.type
  semicolon "type alias"
  return []

def interface (g : Grammar) : Parse (List Stmt) := do
  let name ← bindingName "interface"
  modify fun s => { s with typeNames := name :: s.typeNames }
  Types.parameters g
  if ← eatWord "extends" then
    g.type
    discard (repeatWhile (isOp ",") do
      advance
      g.type)
  Types.object g
  return []

/-- Whether the current word begins a declaration: what it declares follows on the same line. -/
def declares (next : Token → Bool) : Parse Bool :=
  sees do
    advance
    let t ← token
    return !t.newline && next t

/-- Words that may follow `declare`. -/
def declarable (t : Token) : Bool :=
  match t.kind with
  | .word n => ["const", "let", "var", "function", "class", "enum", "namespace", "module", "global", "type",
      "interface", "abstract", "async", "using"].contains n
  | _ => false

/-- Body of `declare global` or of a module with a quoted name. -/
def ambientBlock (g : Grammar) : Parse (List Stmt) := do
  if ← isOp "\x7b" then
    -- what is exported inside makes no module of the source
    let sawModule := (← get).sawModule
    discard (withFlags (fun f => { f with ambient := true }) (block g "module declaration"))
    modify fun s => { s with sawModule := sawModule }
  else semicolon "module declaration"
  return []

/-- A declaration that only a typed source holds, if one begins here. -/
def typed? (g : Grammar) (exported : Bool) : Parse (Option (List Stmt)) := do
  let t ← token
  match t.kind with
  | .word n =>
    if t.escaped then return none
    else match n with
      | "type" =>
        if ← declares (·.isFreeWord) then
          advance
          return some (← typeAlias g)
        else return none
      | "interface" =>
        if ← declares (·.isFreeWord) then
          advance
          return some (← interface g)
        else return none
      | "enum" =>
        advance
        return some (← Lowered.enum g exported)
      | "const" =>
        if ← sees (do advance; isWord "enum") then
          advance
          advance
          return some (← Lowered.enum g exported)
        else return none
      | "namespace" | "module" =>
        if ← declares (·.isFreeWord) then
          advance
          return some (← Lowered.nspace g 100 none)
        else if n == "module" && (← declares fun t => match t.kind with | .text _ _ => true | _ => false) then
          advance
          advance
          return some (← ambientBlock g)
        else return none
      | "global" =>
        if ← declares (·.isOp "\x7b") then
          advance
          return some (← ambientBlock g)
        else return none
      | "abstract" =>
        if ← declares (·.isWord "class") then
          advance
          advance
          return some (← classDecl g [] t.start)
        else return none
      | "declare" =>
        if ← declares declarable then
          advance
          discard (withFlags (fun f => { f with ambient := true }) (g.statement .item))
          return some []
        else return none
      | _ => return none
  | _ => return none

/-! ## Control -/

def ifStmt (g : Grammar) : Parse Stmt := do
  advance
  let test ← condition g "if statement"
  let yes ← single g .arm
  if ← eatWord "else" then return .condElse test yes (← single g .arm) else return .cond test yes

def doStmt (g : Grammar) : Parse Stmt := do
  advance
  let body ← loopBody g
  expectWord "while" "do-while statement"
  let test ← condition g "do-while statement"
  discard (eat ";")
  return .doWhile body test

/-- What the engine refuses in the head of a loop over properties or items. -/
def checkHead (ps : List Pattern) (loop : String) (place : Place) : Parse Unit := do
  match ps with
  | [.initial _ _] =>
    refuse ⟨"", s!"a declaration in the head of a {loop} loop can't have an initializer", some place⟩
  | [_] => pure ()
  | _ => refuse ⟨"", s!"only one variable can be declared in the head of a {loop} loop", some place⟩

/-- What follows the head of a loop over properties or items. -/
def loopOver (g : Grammar) (head : Stmt) (async : Bool) : Parse Stmt := do
  if ← eatWord "of" then
    let e ← inside g.assignment
    expect ")" "for-of statement"
    return .forOf async head e (← loopBody g)
  else
    advance
    let e ← inside g.expr
    expect ")" "for-in statement"
    return .forIn head e (← loopBody g)

/-- What follows the first part of a counting loop. -/
def loopRest (g : Grammar) (start : Stmt) : Parse Stmt := do
  expect ";" "for statement"
  let (test, update) ← inside do
    let test ← if ← isOp ";" then pure none else pure (some (← g.expr))
    expect ";" "for statement"
    let update ← if ← isOp ")" then pure none else pure (some (← g.expr))
    return (test, update)
  expect ")" "for statement"
  return .loop start test update (← loopBody g)

/-- Whether the engine takes a token for the first that a declaration with `let` declares. -/
def isLetTarget (t : Token) : Bool := t.isFreeWord || t.isOp "[" || t.isOp "\x7b"

/-- Whether `let` begins a declaration here; the transpiler takes it for a declaration of a reserved
word, too. -/
def isLet : Parse Bool := do
  if ← isWord "let" then
    sees do
      advance
      let t ← token
      return isLetTarget t || (!(← isScript) && t.word?.any (· != "in"))
  else return false

/-- Elsewhere than before what it declares, the engine takes `let` for a name, which it is not in strict
code. -/
def checkLet : Parse Unit := do
  let t ← token
  if !(← sees (do advance; return isLetTarget (← token))) then
    refuse (unexpectedComplaint t "primary expression")

/-- Whether the `let` that begins a statement begins a declaration; the transpiler takes it for a name
only before an operator, a point, a parenthesis or a semicolon. -/
def letDeclares (position : Position) : Parse Bool := do
  if ← isScript then isLet
  else
    let next ← lookahead do
      advance
      token
    match next with
    | none => return true
    | some t =>
      if position != .item && !t.isOp "[" then return false
      else match t.kind with
        | .op o =>
          return !(o == "." || o == "(" || o == ";" || o == "=" || (BinaryOp.ofText? o).isSome ||
            (Expression.compoundOp? o).isSome)
        | .word n => return !(n == "in" || n == "instanceof")
        | _ => return true

/-- Whether `using` begins a declaration here. -/
def isUsing (inLoop : Bool) : Parse Bool := do
  if ← isWord "using" then
    sees do
      advance
      let t ← token
      match t.kind with
      | .word n => return !t.newline && !(isReserved n) && !(inLoop && n == "of")
      | _ => return false
  else return false

/-- The engine takes `using` for a name, behind which something else than what stands here is due. -/
def refuseUsing (inLoop : Bool) : Parse Unit := do
  refuse (expectedComplaint (← token) ";" (if inLoop then "for statement" else "expression statement"))

/-- The declaration keyword that begins here, taken. -/
def varKind? (inLoop : Bool) : Parse (Option VarKind) := do
  if ← eatWord "var" then return some .var
  else if ← eatWord "const" then return some .const
  else if ← isLet then
    checkLet
    advance
    return some .let
  else if ← isScript then return none
  else if ← isUsing inLoop then
    advance
    refuseUsing inLoop
    return some .using
  else if (← isWord "await") && (← sees (do advance; isUsing inLoop)) then
    let t ← token
    if !(← flags).async then refuse (unexpectedComplaint t "primary expression")
    advance
    advance
    refuseUsing inLoop
    return some .awaitUsing
  else return none

def forStmt (g : Grammar) : Parse Stmt := do
  advance
  let async ← eatWord "await"
  expect "(" "for statement"
  let start := (← token).start
  if ← isOp ";" then loopRest g .empty
  else match ← varKind? true with
    | some kind =>
      let ps ← withFlags (fun f => { f with allowIn := false, open_ := f.open_ + 1 }) (declarators g kind true)
      let isOf ← isWord "of"
      if isOf || (← isWord "in") then
        checkHead ps (if isOf then "for-of" else "for-in") start
        loopOver g (.declare kind ps) async
      else loopRest g (.declare kind ps)
    | none =>
      let covers := (← get).covers
      let startsAsyncOf ← sees do
        if ← eatWord "async" then isWord "of" else return false
      if startsAsyncOf && !async then
        complain "The left-hand side of a \x60for...of\x60 statement may not be \x60async\x60"
          "unexpected token 'async', for-of loop" start
      let e ← withFlags (fun f => { f with allowIn := false, open_ := f.open_ + 1 }) g.expr
      if (← isWord "of") || (← isWord "in") then
        let p ← Target.asTarget start e
        modify fun s => { s with covers := covers }
        loopOver g (.target p) async
      else loopRest g (.expr e)

def caseClause (g : Grammar) : Parse Stmt := do
  let test ←
    if ← eatWord "default" then pure none
    else if ← eatWord "case" then pure (some (← g.expr))
    else unexpected "switch statement"
  expect ":" "switch statement"
  let more : Parse Bool := do
    let t ← token
    return !(t.isOp "\x7d" || t.isStop || t.isWord "case" || t.isWord "default")
  return .case test (← repeatWhile more (g.statement .item)).flatten

def switchStmt (g : Grammar) : Parse Stmt := do
  advance
  let e ← condition g "switch statement"
  let start := (← token).start
  expect "\x7b" "switch statement"
  let more : Parse Bool := do
    let t ← token
    return !(t.isOp "\x7d" || t.isStop)
  let cases ← withFlags (fun f => { f with inSwitch := true }) (inside (repeatWhile more (caseClause g)))
  expect "\x7d" "switch statement"
  if !(← isTyped) then
    match Names.casesFault? (← flags).strict cases with
    | some fault => refuse ⟨"", fault, some start⟩
    | none => pure ()
  return .switch e cases

def tryStmt (g : Grammar) : Parse Stmt := do
  advance
  let body ← block g "try statement"
  let handler ←
    if ← eatWord "catch" then
      let place := (← token).start
      let p ←
        if ← eat "(" then
          let p ← g.binding
          if ← isTyped then Types.annotation g
          expect ")" "catch clause"
          pure p
        else pure Pattern.hole
      let handler ← block g "catch clause"
      if !(← isTyped) then
        match Names.handlerFault? p handler with
        | some fault => refuse ⟨"", fault, some place⟩
        | none => pure ()
      pure (some (p, handler))
    else pure none
  let finalizer ← if ← eatWord "finally" then pure (some (← block g "finally clause")) else pure none
  match handler, finalizer with
  | some (p, h), some f => return .tryCatchFinally body p h f
  | some (p, h), none => return .tryCatch body p h
  | none, some f => return .tryFinally body f
  | none, none =>
    complainAs "Missing catch or finally clause" (unexpectedComplaint (← token) "try statement")
    return .tryFinally body []

/-- The label of a jump, on the same line. -/
def label? (context : String) : Parse (Option String) := do
  let t ← token
  if t.newline then return none
  else match ← bindable? with
    | some n =>
      refuseStrict n (expectedComplaint t ";" context)
      advance
      return some n
    | none => return none

def returnStmt (g : Grammar) : Parse Stmt := do
  let t ← token
  if !(← flags).inFunction then
    complainAs "A 'return' statement can only be used within a function body."
      (unexpectedComplaint t "statement")
  advance
  if ← atStatementEnd then
    semicolon "return statement"
    return .return none
  else
    let e ← g.expr
    semicolon "return statement"
    return .return (some e)

def throwStmt (g : Grammar) : Parse Stmt := do
  advance
  let t ← token
  if t.newline then
    complainAs "Illegal newline after throw" (unexpectedComplaint t "throw statement")
  let e ← inside g.expr
  semicolon "throw statement"
  return .throw e t.start

/-- A fault of the jumps and labels of a source, for which only its start is known. -/
def jumpFault (text : String) : Parse Unit := refuse ⟨"", text ++ " at line 1, col 1", none⟩

def breakStmt : Parse Stmt := do
  advance
  let l ← label? "break statement"
  let f ← flags
  match l with
  | some n => if (f.labels.lookup n).isNone then jumpFault s!"undefined break target: {n}"
  | none => if !f.inSwitch then jumpFault "illegal break statement"
  semicolon "break statement"
  return .break l

def continueStmt : Parse Stmt := do
  advance
  let l ← label? "continue statement"
  let f ← flags
  if !f.inLoop then jumpFault "illegal continue statement"
  match l with
  | some n => if f.labels.lookup n != some true then jumpFault s!"undefined continue target: {n}"
  | none => pure ()
  semicolon "continue statement"
  return .continue l

/-- Whether a loop begins behind the labels that stand here. -/
def labelsLoop : Parse Bool :=
  sees do
    let more : Parse Bool := do
      match (← token).kind with
      | .word _ => sees (do advance; isOp ":")
      | _ => return false
    discard (repeatWhile more (do advance; advance))
    let t ← token
    return t.isWord "for" || t.isWord "while" || t.isWord "do"

/-- A statement behind its label and the colon. -/
def labelled (g : Grammar) (name : String) : Parse Stmt := do
  if ((← flags).labels.lookup name).isSome then jumpFault s!"duplicate label: {name}"
  let isLoop ← labelsLoop
  return .labelled name
    (← withFlags (fun f => { f with labels := (name, isLoop) :: f.labels }) (single g .arm))

/-- An expression, or a label and what it labels. -/
def expressionStmt (g : Grammar) : Parse (List Stmt) := do
  match ← bindable? with
  | some n =>
    if ← sees (do advance; isOp ":") then
      refuseStrict n (unexpectedComplaint (← token) "primary expression")
      advance
      advance
      return [← labelled g n]
  | none => pure ()
  let e ← g.expr
  semicolon "expression statement"
  return [.expr e]

/-- Whether `async` begins a function declaration here. -/
def isAsyncDecl : Parse Bool := Expression.isAsyncFunction

/-- What is wrong with a declaration that stands alone, where a statement is due. -/
def checkAlone (position : Position) (brief : String) (place : Place) : Parse Unit := do
  if position != .item then note (.same brief place)

/-- A function declaration in its place. -/
def functionStmt (g : Grammar) (position : Position) (async : Bool) (start : Place) : Parse (List Stmt) := do
  if position != .item && (async || position = .sole || (← flags).strict) then
    refuse ⟨"", "expected statement", some start⟩
  let generator ← sees do
    advance
    isOp "*"
  let ss ← functionDecl g async start true
  if async then
    checkAlone position "Async functions can only be declared at the top level or inside a block" start
  if generator then
    checkAlone position "Generators can only be declared at the top level or inside a block" start
  return ss

/-- A class declaration in its place, from behind its keyword on. -/
def classStmt (g : Grammar) (position : Position) (decorators : List Expr) (start : Place) : Parse (List Stmt) := do
  if position != .item then refuse ⟨"", "expected statement", some start⟩
  let ss ← classDecl g decorators start
  checkAlone position "Invalid class declaration" start
  return ss

/-- A declaration of variables in its place, from behind its keyword on. -/
def variableStmt (g : Grammar) (position : Position) (kind : VarKind) (start : Place) : Parse (List Stmt) := do
  let ss ← declaration g kind
  if kind = .let || kind = .const then
    checkAlone position "Lexical declaration cannot appear in a single-statement context" start
  return ss

/-- A statement that any source may hold. -/
def plain (g : Grammar) (position : Position) : Parse (List Stmt) := do
  let t ← token
  match t.kind with
  | .op "\x7b" => return [.block (← block g "block statement")]
  | .op ";" =>
    advance
    return [.empty]
  | .op "@" =>
    let ds ← Expression.decorators g
    let start := (← token).start
    if (← isTyped) && (← isWord "abstract") then advance
    Expression.classWord "class declaration"
    classStmt g position ds start
  | .word n =>
    if t.escaped then expressionStmt g
    else match n with
      | "var" =>
        advance
        declaration g .var
      | "const" =>
        advance
        variableStmt g position .const t.start
      | "let" =>
        if ← letDeclares position then
          checkLet
          advance
          variableStmt g position .let t.start
        else expressionStmt g
      | "function" => functionStmt g position false t.start
      | "class" =>
        advance
        classStmt g position [] t.start
      | "if" => return [← ifStmt g]
      | "for" => return [← forStmt g]
      | "while" =>
        advance
        let test ← condition g "while statement"
        return [.while test (← loopBody g)]
      | "do" => return [← doStmt g]
      | "switch" => return [← switchStmt g]
      | "try" => return [← tryStmt g]
      | "return" => return [← returnStmt g]
      | "throw" => return [← throwStmt g]
      | "break" => return [← breakStmt]
      | "continue" => return [← continueStmt]
      | "debugger" =>
        advance
        semicolon "debugger statement"
        return [.debugger]
      | "with" =>
        if (← flags).strict then
          refuse ⟨"", "with statement not allowed in strict mode", some t.start⟩
        advance
        let e ← condition g "with statement"
        return [.with e (← single g .sole)]
      | _ =>
        if ← isAsyncDecl then
          advance
          functionStmt g position true t.start
        else match ← varKind? false with
          | some kind => declaration g kind
          | none => expressionStmt g
  | _ => expressionStmt g

end Playpen.Script.Statement
