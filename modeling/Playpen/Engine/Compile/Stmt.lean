import Playpen.Engine.Compile.Function

/-!
# Compiling: statements
-/

namespace Playpen.Engine

open Playpen.Script

namespace Compile

variable (c : Compilers)

/-- The value of a statement counts for code given to `eval`. -/
def keepValue : Compile Unit := do
  match (← get).completion with
  | some l => emit (.setLocal l)
  | none => emit .pop

/-- Names that a block declares. -/
def blockNames (ss : List Stmt) : List Declared :=
  let lexical := Names.lexical ss
  let functions := (Names.functions ss).filterMap (·.info.name)
  (Names.distinct (lexical.map (·.1))).map (fun n =>
    ⟨n, if lexical.any (fun l => l.1 == n && l.2) then .constant else .mutable, true, false⟩) ++
  ((Names.distinct functions).filter fun n => !lexical.any (·.1 == n)).map fun n => ⟨n, .mutable, false, false⟩

/-- The statements of a block; its functions are there from the start. -/
def block (ss : List Stmt) : Compile Unit :=
  inScope (blockNames ss) do
    hoist c (Names.functions ss)
    ss.forM c.stmt

/-- Declared targets in order. -/
def declare (kind : VarKind) (ps : List Pattern) : Compile Unit :=
  ps.forM fun p => do
    match p, kind with
    | .initial (.ident n) e, .var =>
      c.expr (some n) e
      setVar n
    | .initial q e, .var =>
      c.expr none e
      c.target .assign q
    | .initial q e, _ =>
      c.expr (targetName q) e
      c.target .init q
    | .ident _, .var => pure ()
    | .ident n, _ =>
      push .undefined
      initVar n
    | _, _ => pure ()

/-- The scope of a loop's variables. -/
def loopNames (kind : VarKind) (ps : List Pattern) : List Declared :=
  if kind == .var then []
  else (Names.distinct (Names.ofPatterns ps)).map fun n =>
    ⟨n, if kind == .const then .constant else .mutable, true, false⟩

/-- Whether the innermost scope has an environment. -/
def hasEnv (names : List Declared) : Compile Bool := do
  match (← get).scopes with
  | s :: _ => return !names.isEmpty && s.hasEnv
  | [] => return false

def optional (e : Option Expr) : Compile Unit := do
  match e with
  | some e => c.expr none e
  | none => push .undefined

/-- A loop with a start, a test and a step. -/
def loop (labels : List String) (start : Stmt) (test update : Option Expr) (body : Stmt) : Compile Unit := do
  let names := match start with
    | .declare kind ps => loopNames kind ps
    | _ => []
  inScope names do
    match start with
    | .declare kind ps => declare c kind ps
    | .expr e =>
      c.expr none e
      emit .pop
    | _ => pure ()
    let copies ← hasEnv names
    let first ← newLabel
    let again ← newLabel
    let goOn ← newLabel
    let done ← newLabel
    if copies then emit .copyEnv
    emit (.jump first)
    mark again
    mark goOn
    if copies then emit .copyEnv
    emit .loopTick
    match update with
    | some e =>
      c.expr none e
      emit .pop
    | none => pure ()
    mark first
    match test with
    | some e =>
      c.expr none e
      emit (.jumpIfFalse done)
    | none => pure ()
    withControl (.breakable labels true done (some goOn)) (c.stmt body)
    emit (.jump again)
    mark done

def whileLoop (labels : List String) (test : Expr) (body : Stmt) : Compile Unit := do
  let again ← newLabel
  let done ← newLabel
  mark again
  emit .loopTick
  c.expr none test
  emit (.jumpIfFalse done)
  withControl (.breakable labels true done (some again)) (c.stmt body)
  emit (.jump again)
  mark done

def doWhileLoop (labels : List String) (body : Stmt) (test : Expr) : Compile Unit := do
  let again ← newLabel
  let goOn ← newLabel
  let done ← newLabel
  mark again
  withControl (.breakable labels true done (some goOn)) (c.stmt body)
  mark goOn
  emit .loopTick
  c.expr none test
  emit (.jumpIfTrue again)
  mark done

/-- A round of a loop over items: the item on the stack goes to the loop's target. -/
def loopRound (labels : List String) (head : Stmt) (body : Stmt) (done goOn : Nat) : Compile Unit := do
  let run : Compile Unit := withControl (.breakable labels true done (some goOn)) (c.stmt body)
  match head with
  | .declare .var ps =>
    match ps with
    | [.initial q _] => c.target .assign q
    | p :: _ => c.target .assign p
    | [] => emit .pop
    run
  | .declare kind ps =>
    -- the item waits while the scope is entered
    let l ← newLocal
    emit (.setLocal l)
    -- a jump that goes on has to leave the scope first
    withControl (.breakable labels true done (some goOn)) <| inScope (loopNames kind ps) do
      emit (.getLocal l)
      match ps with
      | p :: _ => c.target .init p
      | [] => emit .pop
      c.stmt body
  | .target p =>
    c.target .assign p
    run
  | _ =>
    emit .pop
    run

/-- The scope in which the expression of a loop is evaluated: the loop's names are there, but not
yet to be used. -/
def loopSubject (head : Stmt) (e : Expr) : Compile Unit := do
  match head with
  | .declare kind ps => inScope (loopNames kind ps) (c.expr none e)
  | _ => c.expr none e

def forOf (labels : List String) (async : Bool) (head : Stmt) (e : Expr) (body : Stmt) : Compile Unit := do
  let slot ← newPair
  loopSubject c head e
  emit (if async then .getAsyncIterator slot else .getIterator slot)
  let again ← newLabel
  let stop ← newLabel
  let broken ← newLabel
  let failed ← newLabel
  let done ← newLabel
  emit (.pushHandler failed)
  withControl (.iterator slot async) do
    mark again
    emit .loopTick
    if async then
      emit (.iterCall slot)
      awaitValue
      emit (.iterUnwrap stop)
    else emit (.iterStep slot stop)
    loopRound c labels head body broken again
    emit (.jump again)
  mark stop
  emit .popHandler
  emit (.jump done)
  mark broken
  -- as on the way out of the loop
  unwind [.iterator slot async] (.label done)
  mark failed
  if async then
    let e ← newLocal
    let quiet ← newLabel
    emit (.setLocal e)
    emit (.iterCloseQuiet slot)
    emit (.jumpIfFalse quiet)
    let bad ← newLabel
    emit (.pushHandler bad)
    emit .await
    emit (.resume 0)
    emit .popHandler
    mark bad
    mark quiet
    emit .pop
    emit (.getLocal e)
    emit .throw
  else emit (.iterCloseThrow slot)
  mark done

def forIn (labels : List String) (head : Stmt) (e : Expr) (body : Stmt) : Compile Unit := do
  let slot ← newLocal
  match head with
  | .declare .var [.initial (.ident n) v] =>
    c.expr (some n) v
    setVar n
  | _ => pure ()
  loopSubject c head e
  emit (.forInStart slot)
  let again ← newLabel
  let done ← newLabel
  mark again
  emit .loopTick
  emit (.forInNext slot done)
  loopRound c labels head body done again
  emit (.jump again)
  mark done

/-! ## Exceptions -/

def catchClause (param : Pattern) (handler : List Stmt) : Compile Unit := do
  match param with
  | .hole =>
    emit .pop
    block c handler
  | p =>
    let l ← newLocal
    emit (.setLocal l)
    inScope ((Names.distinct (Names.ofPatterns [p])).map fun n => ⟨n, .mutable, true, false⟩) do
      emit (.getLocal l)
      c.target .init p
      block c handler

def tryCatch (body : Compile Unit) (param : Pattern) (handler : List Stmt) : Compile Unit := do
  let caught ← newLabel
  let done ← newLabel
  emit (.pushHandler caught)
  withControl .handler body
  emit .popHandler
  emit (.jump done)
  mark caught
  catchClause c param handler
  mark done

def tryFinally (body : Compile Unit) (finalizer : List Stmt) : Compile Unit := do
  let slot ← newPair
  let id ← fresh
  let caught ← newLabel
  let last ← newLabel
  let done ← newLabel
  let rethrow ← newLabel
  emit (.pushHandler caught)
  withControl (.finalizer id last slot) body
  emit .popHandler
  push (.nat 0)
  emit (.setLocal (slot + 1))
  emit (.jump last)
  mark caught
  emit (.setLocal slot)
  push (.nat 1)
  emit (.setLocal (slot + 1))
  mark last
  -- the value to return outlives whatever the last part does with it
  let saved ← newLocal
  let returned ← returnSlot
  emit (.getLocal returned)
  emit (.setLocal saved)
  let completion := (← get).completion
  modify fun s => { s with completion := none }
  block c finalizer
  modify fun s => { s with completion := completion }
  emit (.getLocal saved)
  emit (.setLocal returned)
  emit (.jumpIfTag (slot + 1) 1 rethrow)
  let mine := (← get).pending.filter fun p => p.1 == id
  modify fun s => { s with pending := s.pending.filter fun p => p.1 != id }
  mine.forM fun (_, tag, target, around) => do
    let here ← newLabel
    let next ← newLabel
    emit (.jumpIfTag (slot + 1) tag here)
    emit (.jump next)
    mark here
    unwind ((← get).control.take around) target
    mark next
  emit (.jump done)
  mark rethrow
  emit (.getLocal slot)
  emit .throw
  mark done

/-! ## Switches -/

/-- Tests of a switch's cases, in order; the value is in a local. -/
def caseTests (slot : Nat) : List (Nat × Stmt) → Compile Unit
  | [] => pure ()
  | (l, s) :: rest => do
    match s with
    | .case (some e) _ =>
      emit (.getLocal slot)
      c.expr none e
      emit (.binary .same)
      emit (.jumpIfTrue l)
    | _ => pure ()
    caseTests slot rest

def switch (labels : List String) (e : Expr) (cases : List Stmt) : Compile Unit := do
  let slot ← newLocal
  c.expr none e
  emit (.setLocal slot)
  let done ← newLabel
  let all := cases.flatMap fun
    | .case _ ss => ss
    | _ => []
  withControl (.breakable labels true done none) <| inScope (blockNames all) do
    hoist c (Names.functions all)
    let marked ← cases.mapM fun s => do return (← newLabel, s)
    caseTests c slot marked
    let stop ← newLabel
    match marked.find? fun m => (match m.2 with | .case none _ => true | _ => false) with
    | some (l, _) => emit (.jump l)
    | none => emit (.jump stop)
    marked.forM fun (l, s) => do
      mark l
      match s with
      | .case _ ss => ss.forM c.stmt
      | _ => pure ()
    mark stop
  mark done

/-! ## Statements -/

/-- A statement with the labels before it. -/
def labelled : Nat → List String → Stmt → Compile Unit
  | 0, _, _ => pure ()
  | n + 1, labels, s => do
    match s with
    | .commented _ s => labelled n labels s
    | .labelled l s => labelled n (l :: labels) s
    | .loop start test update body => loop c labels start test update body
    | .while test body => whileLoop c labels test body
    | .doWhile body test => doWhileLoop c labels body test
    | .forIn head e body => forIn c labels head e body
    | .forOf async head e body => forOf c labels async head e body
    | .switch e cases => switch c labels e cases
    | s =>
      let done ← newLabel
      withControl (.breakable labels false done none) (c.stmt s)
      mark done

def exportDefaultName : String := "*default*"

def stmt (s : Stmt) : Compile Unit := do
  match s with
  | .empty => pure ()
  | .debugger => pure ()
  | .expr e =>
    c.expr none e
    keepValue
  | .block ss => block c ss
  | .declare kind ps => declare c kind ps
  | .target _ => pure ()
  | .func _ => pure ()
  | .class k =>
    c.classDef (k.info.name.getD "") k
    match k.info.name with
    | some n => initVar n
    | none => emit .pop
  | .cond test yes =>
    let done ← newLabel
    c.expr none test
    emit (.jumpIfFalse done)
    c.stmt yes
    mark done
  | .condElse test yes no =>
    let other ← newLabel
    let done ← newLabel
    c.expr none test
    emit (.jumpIfFalse other)
    c.stmt yes
    emit (.jump done)
    mark other
    c.stmt no
    mark done
  | .loop _ _ _ _ | .while _ _ | .doWhile _ _ | .forIn _ _ _ | .forOf _ _ _ _ | .switch _ _ =>
    labelled c 100 [] s
  | .labelled _ _ => labelled c 100 [] s
  | .case _ _ => pure ()
  | .continue l =>
    match continuePath l (← get).control with
    | some (path, t) => unwind path (.label t)
    | none => pure ()
  | .break l =>
    match breakPath l (← get).control with
    | some (path, t) => unwind path (.label t)
    | none => pure ()
  | .return e =>
    optional c e
    returnValue
  | .throw e place =>
    atPlace place do
      c.expr none e
      emit .throw
  | .tryCatch body param handler => tryCatch c (block c body) param handler
  | .tryFinally body finalizer => tryFinally c (block c body) finalizer
  | .tryCatchFinally body param handler finalizer =>
    tryFinally c (tryCatch c (block c body) param handler) finalizer
  | .with e body =>
    c.expr none e
    emit .pushWith
    modify fun s => { s with scopes := ⟨[], true, true, false⟩ :: s.scopes }
    withControl .env (c.stmt body)
    leaveScope
    emit .popEnv
  | .imports _ _ _ | .exportNames _ _ | .exportAll _ _ => pure ()
  | .exportDecl s => c.stmt s
  | .exportDefaultDecl s =>
    match s with
    | .class k =>
      c.classDef (k.info.name.getD "default") k
      match k.info.name with
      | some n => initVar n
      | none => initVar exportDefaultName
    | _ => pure ()
  | .exportDefault e =>
    -- what has no name of its own is named once it has been made
    if isAnonymous 100 e then
      push (.str "default")
      c.expr (some "") e
      emit .nameFunction
      emit .swap
      emit .pop
    else c.expr none e
    initVar exportDefaultName
  | .commented _ s => c.stmt s
  | .comments _ => pure ()

/-- The compiler for a nesting up to a bound. -/
def compilers : Nat → Compilers
  | 0 => {
      expr := fun _ _ => pure (), stmt := fun _ => pure (), target := fun _ _ => pure ()
      func := fun _ _ => pure 0, classDef := fun _ _ => pure () }
  | n + 1 => {
      expr := fun name e s => expr (compilers n) name e s
      stmt := fun s st => stmt (compilers n) s st
      target := fun m p s => target (compilers n) m p s
      func := fun u f s => func (compilers n) u f s
      classDef := fun name k s => classDef (compilers n) name k s }

/-- Deeper than any source nests. -/
def nesting : Nat := 1000000

end Compile

end Playpen.Engine
