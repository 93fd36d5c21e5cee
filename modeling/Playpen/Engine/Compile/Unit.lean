import Playpen.Engine.Compile.Stmt
import Playpen.Engine.Machine

/-!
# Compiling: whole sources

A function made from texts, code given to `eval`, and modules.
-/

namespace Playpen.Engine

open Playpen.Script
open Playpen.Text (Wide)

namespace Compile

/-- The state in which a source is compiled. -/
def startState (origin : Origin) (module counter : Nat) (scopes : List Scope) (strict : Bool) : CompileState := {
  instrs := #[], places := #[], place := 0, labels := #[0], scopes := scopes, locals := 0
  funcs := #[], control := [], pending := [], counter := counter, returnSlot := none, completion := none
  chains := [], strict := strict, async := false, generator := false, derived := false, lateThis := false
  captured := [], allCaptured := true, origin := origin, module := module }

/-- The code of a function that stands alone. -/
def functionCode (origin : Origin) (counter : Nat) (name : String) (f : Func) : Code × Nat :=
  let s := startState origin 0 counter [] false
  let (i, s) := func (compilers nesting) ⟨name, .normal, false⟩ f s
  (s.funcs.getD i default, s.counter)

/-- The code of a program given to `eval`.  Inside a function, every name may lead to one of the
function's; variables go to the function around unless the code is strict. -/
def evalCode (origin : Origin) (counter : Nat) (p : Program) (direct : Bool) : Code × Nat :=
  let c := compilers nesting
  let strict := p.info.strict
  let outer : List Scope := if direct then [⟨[], false, true, false⟩] else []
  let body : Compile Unit := do
    modify fun s => { s with place := p.info.bodyPlace }
    let result ← newLocal
    modify fun s => { s with completion := some result }
    let functions := Names.functions p.stmts
    let functionNames := functions.filterMap (·.info.name)
    let vars := Names.distinct (p.stmts.flatMap (Names.vars Names.depth))
    let lexical := Names.lexical p.stmts
    let lexicalNames : List Declared := (Names.distinct (lexical.map (·.1))).map fun n =>
      ⟨n, if lexical.any (fun l => l.1 == n && l.2) then .constant else .mutable, true, true⟩
    if strict then
      let names := (Names.distinct (vars ++ functionNames)).map fun n => ⟨n, .mutable, false, true⟩
      inScope (names ++ lexicalNames) do
        vars.forM fun n => do
          push .undefined
          initVar n
        hoist c functions
        p.stmts.forM c.stmt
    else
      emit (.declareVars ((vars.map (·, false) ++ functionNames.map (·, true)).toArray))
      functions.forM fun f => do
        match f.info.name with
        | some n =>
          let i ← c.func ⟨n, .normal, false⟩ f
          emit (.closure i)
          emit (.setName n false)
        | none => pure ()
      inScope lexicalNames (p.stmts.forM c.stmt)
    emit (.getLocal result)
    emit .return
  let ((), s) := body (startState origin 0 counter outer strict)
  (codeOf "eval" 0 .arrow p.info s, s.counter)

/-! ## Modules -/

/-- The parts of a module that has been read. -/
structure ModuleParts where
  requests : List Wide
  imports : List ImportEntry
  exports : List (Wide × ExportSource)
  stars : List Wide

def ModuleParts.none : ModuleParts := ⟨[], [], [], []⟩

def ModuleParts.request (p : ModuleParts) (w : Wide) : ModuleParts :=
  if p.requests.contains w then p else { p with requests := p.requests ++ [w] }

def exportedBinding (names : List String) (p : ModuleParts) : ModuleParts :=
  { p with exports := p.exports ++ names.map fun n => (.plain n, .binding n) }

/-- What a statement imports and exports. -/
def modulePart (p : ModuleParts) (s : Stmt) : ModuleParts :=
  match s.bare with
  | .imports items source _ =>
    let source := source.wide
    let p := p.request source
    { p with imports := p.imports ++ (items.getD []).map fun
      | .default b => ⟨source, some (.plain "default"), b⟩
      | .all b => ⟨source, none, b⟩
      | .named n b => ⟨source, some n.wide, b⟩ }
  | .exportNames items none =>
    { p with exports := p.exports ++ items.map fun (a, b) => (b.wide, .binding a.wide.display) }
  | .exportNames items (some source) =>
    let source := source.wide
    let p := p.request source
    { p with exports := p.exports ++ items.map fun (a, b) => (b.wide, .indirect source a.wide) }
  | .exportAll none source =>
    let p := p.request source.wide
    { p with stars := p.stars ++ [source.wide] }
  | .exportAll (some n) source =>
    let p := p.request source.wide
    { p with exports := p.exports ++ [(n.wide, .all source.wide)] }
  | .exportDecl s =>
    match Names.stripped s with
    | .declare _ ps => exportedBinding (Names.ofPatterns ps) p
    | .func f => exportedBinding f.info.name.toList p
    | .class k => exportedBinding k.info.name.toList p
    | _ => p
  | .exportDefault _ => { p with exports := p.exports ++ [(.plain "default", .binding exportDefaultName)] }
  | .exportDefaultDecl s =>
    let name := match Names.stripped s with
      | .func f => f.info.name
      | .class k => k.info.name
      | _ => none
    { p with exports := p.exports ++ [(.plain "default", .binding (name.getD exportDefaultName))] }
  | _ => p

/-- An exported function without a name of its own. -/
def defaultFunction? (s : Stmt) : Option Func :=
  match s.bare with
  | .exportDefaultDecl s =>
    match Names.stripped s with
    | .func f => if f.info.name.isNone then some f else none
    | _ => none
  | _ => none

/-- A module, ready to be linked. -/
def moduleOf (origin : Origin) (url : String) (index counter : Nat) (p : Program) : Module × Nat :=
  let c := compilers nesting
  let parts := p.stmts.foldl modulePart .none
  let lexical := Names.lexical p.stmts
  let functions := Names.functions p.stmts
  let vars := Names.distinct (p.stmts.flatMap (Names.vars Names.depth))
  let defaults := p.stmts.filterMap defaultFunction?
  let own := Names.distinct (vars ++ functions.filterMap (·.info.name) ++ lexical.map (·.1) ++ [exportDefaultName])
  let slots := own.zip (List.range own.length)
  let mutability (n : String) : Mutability :=
    if lexical.any (fun l => l.1 == n && l.2) then .constant else .mutable
  let checked (n : String) : Bool := lexical.any (·.1 == n) || n == exportDefaultName
  let importVars := (parts.imports.zip (List.range parts.imports.length)).map fun (e, i) =>
    (⟨e.binding, .import index i, .constant, true⟩ : Var)
  let ownVars := slots.map fun (n, i) => (⟨n, .env i, mutability n, checked n⟩ : Var)
  let scope : Scope := ⟨importVars ++ ownVars, true, false, true⟩
  let slotOf (n : String) : Nat := (slots.lookup n).getD 0
  let body : Compile (List (Nat × Nat)) := do
    let hoisted ← functions.mapM fun f => do
      let n := f.info.name.getD ""
      return (slotOf n, ← c.func ⟨n, .normal, false⟩ f)
    let exported ← defaults.mapM fun f => do
      return (slotOf exportDefaultName, ← c.func ⟨"default", .normal, false⟩ f)
    p.stmts.forM c.stmt
    push .undefined
    emit .return
    return hoisted ++ exported
  let start := { startState origin index counter [scope] true with place := p.info.bodyPlace, async := true }
  let (hoisted, s) := body start
  let info := { p.info with async := true, generator := false }
  let code := codeOf "" 0 .method info s
  let waits := code.instrs.any fun
    | .await => true
    | _ => false
  ({ url := url, code := code
     bindings := (own.map fun n => ⟨n, mutability n⟩).toArray
     vars := vars.map slotOf, hoisted := hoisted
     requests := parts.requests, imports := parts.imports.toArray, exports := parts.exports, stars := parts.stars
     hasAwait := waits, env := 0, status := .unlinked, error := none, loaded := [], links := #[]
     namespaceObject := none, metaObject := none, dfsIndex := 0, dfsAncestor := 0, cycleRoot := index
     pendingAsync := 0, asyncParents := [], asyncOrder := none, capability := none }, s.counter)

end Compile

end Playpen.Engine
