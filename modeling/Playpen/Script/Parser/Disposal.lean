import Playpen.Script.Parser.Basic

/-!
# Parsing: resources that a block gives back

A block that declares resources with `using` becomes a `try` whose last part gives them back.  The
record that keeps track of them comes from a helper, which a program that needs it asks for first.
Only the transpiler does this; whoever reads a plain source keeps its statements.
-/

namespace Playpen.Script.Disposal

open Parse

def isUsing : VarKind → Bool
  | .using | .awaitUsing => true
  | _ => false

def declaresResource (s : Stmt) : Bool :=
  match s.bare with
  | .declare kind _ => isUsing kind
  | _ => false

/-- The name that the helper is bound to. -/
def helperName : String := "_usingCtx2"

/-- A name for the record of the `n`-th block, counted from zero. -/
def recordName (n : Nat) : String := "_usingCtx" ++ (if n = 0 then "" else toString (n + 2))

def method (record name : String) (args : List Expr) : Expr :=
  .call (.member (.ident record) name 0) args 0

/-- A resource's declaration, noted in the record; others are kept, and in a program they are
declared as variables. -/
def noted (record : String) (isProgram : Bool) (s : Stmt) : Stmt :=
  let note (m : String) (ps : List Pattern) := ps.map fun
    | .initial p e => .initial p (method record m [e])
    | p => p
  let kind (k : VarKind) : VarKind := if isProgram then .var else k
  match s.bare with
  | .declare .using ps => .declare (kind .const) (note "u" ps)
  | .declare .awaitUsing ps => .declare (kind .const) (note "a" ps)
  | .declare k ps => .declare (kind k) ps
  | .class c =>
    match c.info.name with
    | some n => if isProgram then .declare .var [.initial (.ident n) (.class c)] else s
    | none => s
  | _ => s

def guarded (record : String) (isProgram : Bool) (ss : List Stmt) : Stmt :=
  let awaits := ss.any fun s =>
    match s.bare with
    | .declare .awaitUsing _ => true
    | _ => false
  let release := method record "d" []
  .tryCatchFinally
    (.declare .var [.initial (.ident record) (.call (.ident helperName) [] 0)] :: ss.map (noted record isProgram))
    (.ident "_")
    [.expr (.assign (.target (.member (.ident record) "e" 0)) (.ident "_") 0)]
    [.expr (if awaits then .await release else release)]

/-- The statements of a block. -/
def block (ss : List Stmt) : Parse (List Stmt) := do
  if (← isTyped) && ss.any declaresResource then
    let n := (← get).resourceBlocks
    modify fun s => { s with resourceBlocks := n + 1 }
    return [guarded (recordName n) false ss]
  else return ss

def isFunction (s : Stmt) : Bool :=
  match s.bare with
  | .func _ => true
  | _ => false

/-- The statements of a program; functions stay outside of the `try`. -/
def lowered (ss : List Stmt) : Parse (List Stmt) := do
  let n := (← get).resourceBlocks
  let body ←
    if ss.any declaresResource then
      modify fun s => { s with resourceBlocks := n + 1 }
      let (functions, others) := ss.partition isFunction
      pure (functions ++ [guarded (recordName n) true others])
    else pure ss
  if (← get).resourceBlocks = 0 then return body
  else
    let helper : Expr := .call (.ident "require") [.literal (.text (.plain "@oxc-project/runtime/helpers/usingCtx"))] 0
    return .declare .var [.initial (.ident helperName) helper] :: body

/-- The statements of a program as its reader wants them. -/
def program (ss : List Stmt) : Parse (List Stmt) := do
  if ← isTyped then lowered ss else return ss

end Playpen.Script.Disposal
