import Playpen.Script.Parser.Program

/-!
# Imports and exports that only types need

A typed source may import and export types.  What no value needs is left out; a source that was a
module by what is left out stays one by an empty export.
-/

namespace Playpen.Script.Elision

/-- A name that stands for a type and for no value. -/
def isTypeOnly (s : ParseState) (values : List String) (name : String) : Bool :=
  s.typeNames.contains name && !values.contains name

/-- Names that the statements declare as values. -/
def declaredNames (stmts : List Stmt) : List String :=
  stmts.flatMap fun s =>
    match s.bare with
    | .declare _ ps => ps.flatMap (Statement.boundNames 500)
    | .func f => f.info.name.toList
    | .class c => c.info.name.toList
    | .imports (some items) _ _ => items.map ImportItem.binding
    | _ => []

/-- The names that values need: those that the source mentions, and those that the aliases among them
are made of. -/
def neededNames (s : ParseState) : List String :=
  s.aliases.foldl (fun names (name, parts) => if names.contains name then parts ++ names else names)
    s.facts.mentions

/-- What is left of a statement, if anything; `mentioned` are the names that values need. -/
def kept (s : ParseState) (mentioned values : List String) (stmt : Stmt) : Option Stmt :=
  match stmt.bare with
  | .declare _ [.initial (.ident n) _] =>
    if (s.aliases.lookup n).isSome && !mentioned.contains n then none else some stmt
  | .imports (some items) source attributes =>
    let needed := items.filter fun i => mentioned.contains i.binding
    if needed.length = items.length then some stmt
    else if needed.isEmpty then none
    else some (.imports (some needed) source attributes)
  | .exportNames items none =>
    let needed := items.filter fun (n, _) => !isTypeOnly s values n.wide.display
    if needed.length = items.length then some stmt
    else if needed.isEmpty then none
    else some (.exportNames needed none)
  | .exportDefault (.ident n) => if isTypeOnly s values n then none else some stmt
  | _ => some stmt

def isModuleItem (s : Stmt) : Bool :=
  match s.bare with
  | .imports _ _ _ | .exportNames _ _ | .exportAll _ _ | .exportDecl _ | .exportDefault _
  | .exportDefaultDecl _ => true
  | _ => false

/-- The program without the imports and exports that only types need. -/
def program (p : Parsed) : Program :=
  let stmts := p.program.stmts.filterMap
    (kept p.state (neededNames p.state) (declaredNames p.program.stmts))
  if p.state.sawModule && !stmts.any isModuleItem then
    { p.program with stmts := stmts ++ [.exportNames [] none] }
  else { p.program with stmts := stmts }

end Playpen.Script.Elision
