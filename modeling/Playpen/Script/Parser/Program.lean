import Playpen.Script.Parser.Markup
import Playpen.Script.Parser.Module

/-!
# Parsing: whole sources

Here the grammar's recursive functions are tied together, under a bound on nesting that no source
reaches, since every level takes at least a character.
-/

namespace Playpen.Script

open Parse

namespace Statement

/-- The engine knows imports and exports at the top of a module only. -/
def checkItem : Parse Unit := do
  let f ← flags
  if f.open_ > 0 || f.inFunction then
    let t ← token
    let c ← if t.isWord "import" then
        let next ← lookahead (do advance; token)
        pure (expectedComplaint (next.getD t) "." "import.meta")
      else pure (unexpectedComplaint t "primary expression")
    refuse c

/-- Whether decorators stand here, and `export` behind them. -/
def exportsDecorated (g : Grammar) : Parse Bool := do
  if (← isOp "@") && !(← isScript) then
    sees do
      discard (Expression.decorators g)
      isWord "export"
  else return false

/-- Gives the class in an export the decorators before it. -/
def decorate (ds : List Expr) : Stmt → Stmt
  | .exportDecl (.class (.mk info parent members own)) => .exportDecl (.class (.mk info parent members (ds ++ own)))
  | .exportDefaultDecl (.class (.mk info parent members own)) =>
    .exportDefaultDecl (.class (.mk info parent members (ds ++ own)))
  | s => s

/-- Any statement; what only types have leaves nothing. -/
def bare (g : Grammar) (position : Position) : Parse (List Stmt) := do
  let t ← token
  let items := !(← isScript)
  if items && t.isWord "import" && !(← sees (do advance; return (← isOp "(") || (← isOp "."))) then
    checkItem
    ModuleItem.importDecl g
  else if items && t.isWord "export" then
    checkItem
    ModuleItem.exportDecl g
  else if ← exportsDecorated g then
    let ds ← Expression.decorators g
    refuse (expectedComplaint (← token) "class" "class declaration")
    return (← ModuleItem.exportDecl g).map (decorate ds)
  else
    match ← if ← isTyped then typed? g false else pure none with
    | some ss => return ss
    | none => plain g position

/-- Any statement with the comments before it, which are kept where the source is written out again. -/
def statement (g : Grammar) (position : Position) : Parse (List Stmt) := do
  let comments := (← get).comments.filter (!Expression.marksPure ·)
  let ss ← bare g position
  if comments.isEmpty || !(← isTyped) then return ss
  else match ss with
    -- a namespace's variable comes before its comments
    | [.declare .let [.ident n], s] => return [.declare .let [.ident n], .commented comments s]
    | s :: rest => return .commented comments s :: rest
    | [] => return []

end Statement

/-- The grammar with nesting up to a bound. -/
def grammar : Nat → Grammar
  | 0 =>
    { expr := unexpected "expression", assignment := unexpected "expression", unary := unexpected "expression"
      type := unexpected "type", binding := unexpected "binding", statement := fun _ => unexpected "statement"
      func := fun _ => unexpected "function", classTail := fun _ _ => unexpected "class"
      markup := unexpected "markup" }
  | n + 1 =>
    { expr := fun s => Expression.expr (grammar n) s
      assignment := fun s => Expression.assignment (grammar n) s
      unary := fun s => Expression.unary (grammar n) s
      type := fun s => Types.type (grammar n) s
      binding := fun s => Target.binding (grammar n) s
      statement := fun p s => Statement.statement (grammar n) p s
      func := fun h s => Function.func (grammar n) h s
      classTail := fun ds p s => ClassDef.tail (grammar n) ds p s
      markup := fun s => Markup.markup (grammar n) s }

/-- What surrounds a source. -/
def outerFlags (m : Lexer.Mode) (inFunction : Bool) : Flags := {
  allowIn := true, async := m.isModule, generator := false, inFunction := inFunction, strict := m.isModule
  ambient := false, open_ := 0, inConditional := false, superCall := false, superMember := false
  labels := [], inLoop := false, inSwitch := false }

/-- The state before the first token is taken. -/
def startState (m : Lexer.Mode) (inFunction : Bool) (text : String) : ParseState :=
  let src := text.toList.toArray
  let src := if src[0]? == some (Char.ofNat 0xFEFF) then src.extract 1 src.size else src
  let s : ParseState := {
    src := src, mode := m, token := default, lastStop := 0, comments := [], badTokens := [], notes := []
    refused := none, abandoned := none
    flags := outerFlags m inFunction, facts := Facts.none, typeNames := [], enums := [], declared := []
    covers := [], regexes := [], hidden := [], late := none, unsupported := [], aliases := [], sawModule := false, resourceBlocks := 0 }
  let hashbang := Lexer.standsAt src 0 ['#', '!'] && !inFunction
  if hashbang then
    let stop := Lexer.skipWhile (!Lexer.isLineEnd ·) src 0
    let s := setToken s stop
    { s with comments := ⟨Lexer.textOf src 0 stop, true, true, true⟩ :: s.comments }
  else setToken s 0

/-- Everything up to the end; a function's body that stands alone ends with a brace that it has not
opened, too. -/
def program : Parse Program := do
  checkToken
  let g := grammar (16 * (← get).src.size + 50)
  let start := (← token).start
  let (ds, stmts) ← do
    let ds ← Function.directives true
    let isBody := (← flags).inFunction
    let more : Parse Bool := do
      let t ← token
      return !(t.isStop || (isBody && t.isOp "\x7d"))
    pure (ds, ← Disposal.program (← repeatWhile more (g.statement .item)).flatten)
  let s ← get
  let info : FuncInfo := { Function.emptyInfo with
    strict := s.flags.strict, start := start, stop := s.src.size, bodyPlace := start
    innerNames := s.facts.inner, usesArguments := s.facts.usesArguments, callsEval := s.facts.callsEval }
  return ⟨ds, stmts ++ (← endComments), info⟩

/-- Members that no pattern has taken. -/
def coverComplaints : Parse Unit := do
  (← get).covers.reverse.forM fun p =>
    complain "Invalid assignment in object literal" "unexpected token '=', object literal" p

/-- What the engine finds wrong once everything has been read. -/
def ParseState.lateFault? (s : ParseState) : Option String :=
  s.late <|> (if s.hidden.isEmpty then none else some "invalid private identifier usage")

/-- A source that has been read, with what was found out about it. -/
structure Parsed where
  program : Program
  state : ParseState

/-- Reads a source as the transpiler does: the tree, or all complaints. -/
def parse (m : Lexer.Mode) (inFunction : Bool) (text : String) : Except (List Complaint) Parsed :=
  let p : Parse Program := do
    let r ← program
    coverComplaints
    return r
  match p (startState m inFunction text) with
  | .ok r s =>
    let all := s.abandoned.getD (s.badTokens.reverse ++ s.notes.reverse)
    if all.isEmpty then .ok ⟨r, s⟩ else .error all
  | .error c s => .error (s.abandoned.getD (verdict s c))

/-- Names exported by the statements of a module, in order. -/
def exportedNames (stmts : List Stmt) : List String :=
  let text (n : ModuleName) : String := n.wide.display
  stmts.flatMap fun s =>
    match s.bare with
    | .exportNames items _ => items.map (text ·.2)
    | .exportAll (some n) _ => [text n]
    | .exportDefault _ => ["default"]
    | .exportDefaultDecl _ => ["default"]
    | .exportDecl (.declare _ ps) => ps.flatMap (Statement.boundNames 500)
    | .exportDecl (.func f) => f.info.name.toList
    | .exportDecl (.class c) => c.info.name.toList
    | _ => []

/-- The names that occur again later in a list, each as often as it is repeated. -/
def repeated (names : List String) : List String :=
  (names.foldl (fun (acc : List String × List String) n =>
    if acc.1.contains n then (acc.1, n :: acc.2) else (n :: acc.1, acc.2)) ([], [])).2.reverse

end Playpen.Script
