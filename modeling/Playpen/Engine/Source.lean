import Playpen.Engine.Compile.Unit
import Playpen.Engine.Regex.Pattern
import Playpen.Script.Parser.Program

/-!
# Sources

Reading the texts that become code: functions made of texts, code given to `eval`, and modules.
-/

namespace Playpen.Engine.Source

open Playpen.Script

def mode (isModule : Bool) : Lexer.Mode := ⟨false, false, isModule⟩

/-- What a complaint says, with its place in the source. -/
def complaintText (src : Array Char) (c : Complaint) : String :=
  match c.place with
  | some p =>
    let (line, column) := Lexer.lineColumn src p
    s!"{c.detail} at line {line}, col {column}"
  | none => c.detail

/-- Where the names of a whole source clash, no better place is known than its start. -/
def atStart (text : String) : String := text ++ " at line 1, col 1"

/-- What is wrong with the first regular expression that has a fault. -/
def regexFault? (s : ParseState) : Option String :=
  s.regexes.reverse.findSome? fun (source, flags, place) =>
    (Regex.literalFault? source flags).map fun text => complaintText s.src ⟨"", text, some place⟩

/-- Runs a parser on a text. -/
def read (m : Lexer.Mode) (inFunction : Bool) (change : Flags → Flags) (text : String) (p : Parse α) :
    Except String (α × ParseState) :=
  let s := startState m inFunction text
  match p { s with flags := change s.flags } with
  | .ok a s =>
    match regexFault? s with
    | some text => .error text
    | none => .ok (a, s)
  | .error c s => .error ((regexFault? s).getD (complaintText s.src c))

/-! ## Functions -/

/-- Parameters up to whatever cannot follow one. -/
def formals : Parse (List Pattern) := do
  Parse.checkToken
  let g := grammar (16 * (← get).src.size + 50)
  let rec go : Nat → Parse (List Pattern)
    | 0 => return []
    | n + 1 => do
      let t ← Parse.token
      if t.isStop || t.isOp ")" then return []
      else
        match ← Function.parameter g with
        | none => return []
        | some (p, _) => if ← Parse.eat "," then return p :: (← go n) else return [p]
  go ((← get).src.size + 1)

/-- A function made of the text of its parameters and that of its body. -/
def functionOf (async generator : Bool) (params body : String) : Except String (Func × Origin) := do
  let change (f : Flags) : Flags := { f with async := async, generator := generator }
  let (ps, ρ) ← (read (mode false) false change params formals).mapError ("failed to parse function parameters: " ++ ·)
  let (p, s) ← (read (mode false) true change ("\n" ++ body ++ "\n") program).mapError
    ("failed to parse function body: " ++ ·)
  let simple := Function.areSimple ps
  if p.info.strict && Names.hasRepetition (Names.ofPatterns ps) then
    throw "Duplicate parameter name not allowed in this context"
  if p.info.strict && !simple then
    throw "Illegal 'use strict' directive in function with non-simple parameter list"
  match Names.redeclared? ps p.stmts with
  | some n => throw s!"Redeclaration of formal parameter \x60{n}\x60"
  | none => pure ()
  match s.lateFault? <|> ρ.lateFault? with
  | some text => throw text
  | none => pure ()
  let info : FuncInfo := { p.info with
    name := some "anonymous", async := async, generator := generator
    innerNames := p.info.innerNames ++ ρ.facts.inner
    usesArguments := p.info.usesArguments || ρ.facts.usesArguments
    callsEval := p.info.callsEval || ρ.facts.callsEval }
  return (.mk info ps p.directives p.stmts none, ⟨none, s.src⟩)

/-! ## Programs -/

/-- What is wrong with the names that a whole source declares. -/
def namesFault? (own vars : List String) : Option String :=
  let text (n : String) : String := s!"lexical name \x60{n}\x60 declared multiple times"
  match Names.repeated? false [] (own.map (·, false)) with
  | some n => some (text n)
  | none => (vars.find? own.contains).map text

/-- A program given to `eval`. -/
def programOf (strict : Bool) (text : String) : Except String (Program × Origin) := do
  let (p, s) ← read (mode false) false (fun f => { f with strict := strict, superMember := true }) text program
  match namesFault? ((Names.lexical p.stmts).map (·.1))
      (p.stmts.flatMap (Names.vars Names.depth) ++ (Names.functions p.stmts).filterMap (·.info.name)) with
  | some fault => throw (atStart fault)
  | none => pure ()
  match s.late with
  | some text => throw text
  | none => pure ()
  return ({ p with info := { p.info with strict := p.info.strict || strict } }, ⟨none, s.src⟩)

/-! ## Modules -/

def importedNames (ss : List Stmt) : List String :=
  ss.flatMap fun s =>
    match Names.stripped s with
    | .imports items _ _ => (items.getD []).map (·.binding)
    | _ => []

/-- Names of the module that it exports. -/
def exportedBindings (ss : List Stmt) : List String :=
  ss.flatMap fun s =>
    match s.bare with
    | .exportNames items none => items.map (·.1.wide.display)
    | _ => []

/-- What is wrong with the names of a module, or with what has been found out about it. -/
def moduleFault? (p : Program) (s : ParseState) : Option String :=
  let own := importedNames p.stmts ++ (Names.lexical p.stmts).map (·.1) ++
    (Names.functions p.stmts).filterMap (·.info.name)
  let vars := p.stmts.flatMap (Names.vars Names.depth)
  let unbound := (exportedBindings p.stmts).find? fun n => !own.contains n && !vars.contains n
  (namesFault? own vars).map atStart <|>
    (Names.repeated? false [] ((exportedNames p.stmts).map (·, false))).map (fun n =>
      atStart s!"exported name \x60{n}\x60 declared multiple times") <|>
    unbound.map (fun n =>
      atStart s!"could not find the exported binding \x60{n}\x60 in the declared names of the module") <|>
    s.lateFault?

/-- What the engine makes of a module that has been read for both of its readers: it ends with what it
has refused first. -/
def asEngine (p : Parse α) : Parse α := fun s =>
  let r := p s
  let after := match r with
    | .ok _ s => s
    | .error _ s => s
  match after.refused with
  | some refusal => .error refusal.complaint { after with regexes := refusal.regexes }
  | none => r

/-- A module's tree. -/
def moduleTree (text : String) : Except String (Program × ParseState) := do
  let (p, s) ← read (mode true) false id text (asEngine program)
  match moduleFault? p s with
  | some text => throw text
  | none => return (p, s)

end Playpen.Engine.Source
