import Playpen.Dependency.Imports
import Playpen.Engine.Closure
import Playpen.Engine.Promise
import Playpen.Engine.Source

/-!
# Modules

A module is read once for each URL, from the first source that the machine was given for it.  Then
it is linked with all that it imports, and evaluated after them; a module that waits at its top lets
those that import it wait, too.
-/

namespace Playpen.Engine

open M
open Playpen.Text (Wide)

namespace Modules

/-! ## Reading -/

/-- Makes a source known; one that is known already stays. -/
def addSource (sources : Table String) (url text : String) : Table String :=
  if sources.contains url then sources else sources.insert url text

def moduleAt (i : Nat) : M Module := look fun m => m.modules.getD i default

def modify (i : Nat) (f : Module → Module) : M Unit := update fun m => { m with modules := m.modules.modify i f }

/-- A failure to find a module, which scripts see as a text. -/
def linkError (message : String) : M α := throwValue (.str message)

/-- A new environment. -/
def newEnv (e : Env) : M Nat := updateGet fun m => (m.envs.size, { m with envs := m.envs.push e })

/-- Reads a module's text. -/
def parse (url text : String) : M Nat := do
  match Source.moduleTree text with
  | .error message => raise .syntaxError message
  | .ok (program, s) =>
    let i ← look (·.modules.size)
    let parsed ← updateGet fun m =>
      let (parsed, counter) := Compile.moduleOf ⟨some url, s.src⟩ url i m.codeCounter program
      (parsed, { m with codeCounter := counter })
    let env ← newEnv ⟨0, .varScope, parsed.bindings, Array.replicate parsed.bindings.size .hole⟩
    update fun m =>
      { m with modules := m.modules.push { parsed with env := env }, instances := m.instances.insert url i }
    return i

/-- The module at a URL. -/
def get (url : String) : M Nat := do
  match ← look fun m => m.instances.get? url with
  | some i => return i
  | none =>
    match ← look fun m => m.sources.get? url with
    | some text => parse url text
    | none => linkError s!"module {url} was not prefetched"

/-- The module that a specifier stands for in the module at a URL. -/
def resolve (referrer : Option String) (specifier : Wide) : M Nat := do
  let specifier := specifier.display
  match referrer with
  | none => linkError s!"cannot resolve '{specifier}' here"
  | some referrer =>
    match Url.parse referrer with
    | .error e => linkError s!"invalid module URL {referrer}: {e.message}"
    | .ok base =>
      match Dependency.resolveSpecifier base specifier with
      | .error e => linkError e.message
      | .ok url => get url.text

/-- What a specifier of a module that has been read stands for. -/
def imported (i : Nat) (specifier : Wide) : M Nat := do
  return ((← moduleAt i).loaded.lookup specifier).getD 0

/-- Adds what a module needs to what is to be read. -/
def visit : Nat → Nat → Reading → M Reading
  | 0, _, r => return r
  | n + 1, i, r => do
    let m ← moduleAt i
    if r.visited.contains i || m.status != .unlinked then return r
    let r := { r with visited := i :: r.visited }
    m.requests.foldlM (fun r specifier => do
      match m.loaded.lookup specifier with
      | some j => visit n j r
      | none => return { r with todo := r.todo ++ [(i, specifier)] }) r

/-- Reads one module. -/
def readNext (r : Reading) : M Reading := do
  match r.todo with
  | [] => return r
  | (i, specifier) :: rest =>
    let j ← resolve (some (← moduleAt i).url) specifier
    modify i fun m => { m with loaded := (specifier, j) :: m.loaded }
    visit (← look (·.modules.size)) j { r with todo := rest }

def readAll : Nat → Reading → M Unit
  | 0, _ => pure ()
  | n + 1, r => if r.todo.isEmpty then pure () else do readAll n (← readNext r)

/-- More imports than modules have. -/
def bound : Nat := 1000000000

/-- Reads everything that a module needs. -/
def read (i : Nat) : M Unit := do
  readAll bound (← visit ((← look (·.modules.size)) + 1) i ⟨[], []⟩)

/-! ## Exports -/

/-- What an exported name leads to. -/
inductive Resolution where
  | nothing
  | ambiguous
  | found (target : Import)
  deriving Inhabited

def sameTarget : Import → Import → Bool
  | .slot e i, .slot f j => e == f && i == j
  | .namespace m, .namespace n => m == n
  | _, _ => false

/-- One more candidate among those that `export *` brings. -/
def Resolution.join (a b : Resolution) : Resolution :=
  match a, b with
  | .nothing, b => b
  | a, .nothing => a
  | .found x, .found y => if sameTarget x y then .found x else .ambiguous
  | _, _ => .ambiguous

/-- Follows an exported name; `path` holds what is being followed already. -/
def resolveExport : Nat → List (Nat × Wide) → Nat → Wide → M Resolution
  | 0, _, _, _ => return .nothing
  | n + 1, path, i, name => do
    if path.contains (i, name) then return .nothing
    let path := (i, name) :: path
    let m ← moduleAt i
    match m.exports.lookup name with
    | some (.binding b) =>
      match m.bindings.findIdx? (·.name == b) with
      | some slot => return .found (.slot m.env slot)
      | none =>
        match m.imports.find? (·.binding == b) with
        | some ⟨specifier, some name, _⟩ => resolveExport n path (← imported i specifier) name
        | some ⟨specifier, none, _⟩ => return .found (.namespace (← imported i specifier))
        | none => return .nothing
    | some (.indirect specifier name) => resolveExport n path (← imported i specifier) name
    | some (.all specifier) => return .found (.namespace (← imported i specifier))
    | none =>
      if name == .plain "default" then return .nothing
      else
        m.stars.foldlM (fun r specifier => do
          match r with
          | .ambiguous => return r
          | r => return r.join (← resolveExport n path (← imported i specifier) name)) .nothing

def follow (i : Nat) (name : Wide) : M Resolution := resolveExport 10000 [] i name

/-- The names that a module exports. -/
def exportedNames : Nat → List Nat → Nat → M (List Wide)
  | 0, _, _ => return []
  | n + 1, path, i => do
    if path.contains i then return []
    let m ← moduleAt i
    m.stars.foldlM (fun names specifier => do
      let more ← exportedNames n (i :: path) (← imported i specifier)
      return more.foldl (fun names w =>
        if w == .plain "default" || names.contains w then names else names ++ [w]) names) (m.exports.map (·.1))

def numberOf (n : Nat) : Value := .nat n

/-- How a namespace object keeps where a name leads. -/
def exportSlot : Import → Slot
  | .namespace m => .data (numberOf m) .none
  | .slot env i => .accessor (numberOf env) (numberOf i) false false

/-- The object of all that a module exports. -/
def namespaceOf (i : Nat) : M Ref := do
  match (← moduleAt i).namespaceObject with
  | some r => return r
  | none =>
    let r ← Heap.allocKind none (.namespace i)
    modify i fun m => { m with namespaceObject := some r }
    let names ← exportedNames 10000 [] i
    let sorted := names.mergeSort fun a b => !b.lt a
    let entries ← sorted.filterMapM fun w => do
      match ← follow i w with
      | .found target => return some (PropKey.ofWide w, exportSlot target)
      | _ => return none
    Heap.modifyObj r fun o => { o with
      extensible := false
      privates := .ofList entries
      props := o.props.set (.symbol Sym.toStringTag) (.data (.str "Module") .none) }
    return r

/-! ## Linking -/

/-- Where an imported name leads. -/
def target (i : Nat) (name : Wide) (shown : Wide) : M Import := do
  match ← follow i name with
  | .found t =>
    match t with
    | .namespace m => discard (namespaceOf m)
    | _ => pure ()
    return t
  | .nothing => raise .syntaxError s!"could not find export \x60{shown.display}\x60"
  | .ambiguous => raise .syntaxError s!"could not resolve ambiguous export \x60{shown.display}\x60"

/-- Fills a module's environment. -/
def prepare (i : Nat) : M Unit := do
  let m ← moduleAt i
  m.exports.forM fun (name, source) => do
    match source with
    | .indirect _ _ => discard (target i name name)
    | .binding b =>
      match m.imports.find? (·.binding == b) with
      | some ⟨_, some _, _⟩ => discard (target i name name)
      | _ => pure ()
    | .all _ => pure ()
  let links ← m.imports.mapM fun e => do
    let j ← imported i e.specifier
    match e.name with
    | some name => target j name name
    | none =>
      discard (namespaceOf j)
      return .namespace j
  modify i fun m => { m with links := links }
  m.vars.forM fun slot => Object.setEnvSlot m.env slot .undefined
  m.hoisted.forM fun (slot, f) => do
    let r ← Closure.alloc (.ofCode (m.code.funcs.getD f default) m.env)
    Object.setEnvSlot m.env slot (.object r)

/-- The modules above one on a stack, and those below. -/
def splitAbove (i : Nat) (stack : List Nat) : List Nat × List Nat :=
  (stack.takeWhile (· != i) ++ [i], (stack.dropWhile (· != i)).drop 1)

/-- Links a module after all that it imports; modules that import each other are done together. -/
def linkFrom : Nat → Nat → List Nat × Nat → M (List Nat × Nat)
  | 0, _, s => return s
  | n + 1, i, (stack, index) => do
    if (← moduleAt i).status != .unlinked then return (stack, index)
    modify i fun m => { m with status := .linking, dfsIndex := index, dfsAncestor := index }
    let (stack, index) ← (← moduleAt i).requests.foldlM (fun s specifier => do
      let j ← imported i specifier
      let s ← linkFrom n j s
      let required ← moduleAt j
      if required.status == .linking then
        modify i fun m => { m with dfsAncestor := min m.dfsAncestor required.dfsAncestor }
      return s) (i :: stack, index + 1)
    prepare i
    let m ← moduleAt i
    if m.dfsAncestor == m.dfsIndex then
      let (done, rest) := splitAbove i stack
      done.forM fun j => modify j fun m => { m with status := .linked }
      return (rest, index)
    else return (stack, index)

/-- Links a module; if that fails, those that were not finished may be linked again. -/
def link (i : Nat) : M Unit := do
  let before ← look (·.modules.size)
  handle (discard (linkFrom (before + 1) i ([], 0))) fun e => do
    (List.range before).forM fun j => modify j fun m =>
      if m.status == .linking then { m with status := .unlinked } else m
    fail e

/-! ## Evaluating -/

/-- Starts a module's code, which gives a promise. -/
def start (i : Nat) : M Value := do
  let m ← moduleAt i
  let f ← Closure.alloc (.ofCode m.code m.env)
  call (.object f) .undefined #[]

/-- Runs a module that does not wait. -/
def run (i : Nat) : M Unit := do
  match ← start i with
  | .object p =>
    match ← Heap.kindOf p with
    | .promise (.rejected e) _ => throwValue e
    | _ => pure ()
  | _ => pure ()

/-- Runs a module that may wait. -/
def runAsync (i : Nat) : M Unit := do
  match ← start i with
  | .object p => Promise.react p (.module i false) (.module i true) none
  | _ => pure ()

def nextOrder : M Nat := updateGet fun m => (m.asyncCounter, { m with asyncCounter := m.asyncCounter + 1 })

/-- Evaluates a module after all that it imports. -/
def evaluateFrom : Nat → Nat → List Nat × Nat → M (List Nat × Nat)
  | 0, _, s => return s
  | n + 1, i, (stack, index) => do
    let m ← moduleAt i
    match m.status with
    | .evaluatingAsync | .evaluated =>
      match m.error with
      | some e => throwValue e
      | none => return (stack, index)
    | .evaluating => return (stack, index)
    | _ =>
      modify i fun m => { m with status := .evaluating, dfsIndex := index, dfsAncestor := index, pendingAsync := 0 }
      -- the stack as it is counts for those who look at it after a failure
      let (stack, index) ← m.requests.foldlM (fun s specifier => do
        let j ← imported i specifier
        let s ← evaluateFrom n j s
        let required ← moduleAt j
        let j ← if required.status == .evaluating then do
            modify i fun m => { m with dfsAncestor := min m.dfsAncestor required.dfsAncestor }
            pure j
          else do
            let root ← moduleAt required.cycleRoot
            match root.error with
            | some e => throwValue e
            | none => pure required.cycleRoot
        let required ← moduleAt j
        if required.asyncOrder.isSome && required.status != .evaluated then
          modify i fun m => { m with pendingAsync := m.pendingAsync + 1 }
          modify j fun m => { m with asyncParents := m.asyncParents ++ [i] }
        return s) (i :: stack, index + 1)
      let m ← moduleAt i
      if m.pendingAsync > 0 || m.hasAwait then
        let order ← nextOrder
        modify i fun m => { m with asyncOrder := some order }
        if m.pendingAsync == 0 then runAsync i
      else run i
      let m ← moduleAt i
      if m.dfsAncestor == m.dfsIndex then
        let (done, rest) := splitAbove i stack
        done.forM fun j => modify j fun m =>
          { m with status := if m.asyncOrder.isSome then .evaluatingAsync else .evaluated, cycleRoot := i }
        return (rest, index)
      else return (stack, index)

def settleModule (i : Nat) (outcome : Except Value Value) : M Unit := do
  match (← moduleAt i).capability with
  | some k => Promise.settle k outcome
  | none => pure ()

/-- Evaluates a module; gives the promise of its end. -/
def evaluate (i : Nat) : M Value := do
  let m ← moduleAt i
  let i := if m.status == .evaluatingAsync || m.status == .evaluated then m.cycleRoot else i
  match (← moduleAt i).capability with
  | some k => return k.promise
  | none =>
    let k ← Promise.plainCapability
    modify i fun m => { m with capability := some k }
    let count ← look (·.modules.size)
    match ← catching (evaluateFrom (count + 1) i ([], 0)) with
    | .ok _ => if (← moduleAt i).asyncOrder.isNone then settleModule i (.ok .undefined)
    | .error e =>
      (List.range count).forM fun j => modify j fun m =>
        if m.status == .evaluating then { m with status := .evaluated, error := some e, cycleRoot := j } else m
      modify i fun m => { m with status := .evaluated, error := some e }
      settleModule i (.error e)
    return k.promise

/-- Modules that can go on since one that they have waited for is done. -/
def released : Nat → Nat → List Nat → M (List Nat)
  | 0, _, found => return found
  | n + 1, i, found => do
    (← moduleAt i).asyncParents.foldlM (fun found j => do
      let m ← moduleAt j
      if found.contains j || (← moduleAt m.cycleRoot).error.isSome then return found
      modify j fun m => { m with pendingAsync := m.pendingAsync - 1 }
      if m.pendingAsync == 1 then
        if m.hasAwait then return found ++ [j] else released n j (found ++ [j])
      else return found) found

/-- A module has failed, and so have all that wait for it. -/
def failed : Nat → Nat → Value → M Unit
  | 0, _, _ => pure ()
  | n + 1, i, e => do
    if (← moduleAt i).status == .evaluated then return ()
    modify i fun m => { m with status := .evaluated, error := some e }
    (← moduleAt i).asyncParents.forM fun j => failed n j e
    settleModule i (.error e)

/-- A module that had to wait is done. -/
def succeeded (i : Nat) : M Unit := do
  let count ← look (·.modules.size)
  if (← moduleAt i).status == .evaluated then return ()
  modify i fun m => { m with status := .evaluated }
  settleModule i (.ok .undefined)
  let waiting ← released (count + 1) i []
  let ordered ← waiting.mapM fun j => do return ((← moduleAt j).asyncOrder.getD 0, j)
  (ordered.mergeSort fun a b => a.1 ≤ b.1).forM fun (_, j) => do
    let m ← moduleAt j
    if m.status == .evaluated then pure ()
    else if m.hasAwait then runAsync j
    else
      match ← catching (run j) with
      | .ok () =>
        modify j fun m => { m with status := .evaluated }
        settleModule j (.ok .undefined)
      | .error e => failed (count + 1) j e

def ended (i : Nat) (v : Value) (throws : Bool) : M Unit := do
  if throws then failed ((← look (·.modules.size)) + 1) i v else succeeded i

/-! ## `import()` -/

/-- Asks for a module while a script runs; gives its promise. -/
def importCall (referrer : Option String) (specifier : Value) : M Value := do
  let p ← Promise.newPending Intrinsic.promisePrototype
  match ← catching (toText specifier) with
  | .error e => Promise.reject p e
  | .ok w => update fun m => { m with imports := m.imports ++ [⟨p, referrer, w, none⟩] }
  return .object p

/-- Goes on with an `import()`; nothing is left of one that has come to its end. -/
def advance (d : DynamicImport) : M (Option DynamicImport) := do
  let step ← catching do
    match d.progress with
    | none =>
      let i ← resolve d.referrer d.specifier
      return (i, ← visit ((← look (·.modules.size)) + 1) i ⟨[], []⟩)
    | some (i, r) => return (i, ← readNext r)
  match step with
  | .error e =>
    Promise.reject d.promise e
    return none
  | .ok (i, r) =>
    if r.todo.isEmpty then
      Promise.enqueue (.reaction ⟨none, .importRead i d.promise⟩ .undefined)
      return none
    else return some { d with progress := some (i, r) }

/-- Goes on with the first `import()` that has not come to its end. -/
def advanceImports : M Unit := do
  match ← look (·.imports) with
  | [] => pure ()
  | d :: _ =>
    let next ← advance d
    update fun m => { m with imports := next.toList ++ m.imports.tail }

/-- A module that `import()` has asked for is there. -/
def importRead (i : Nat) (promise : Ref) : M Unit := do
  match ← catching (do link i; evaluate i) with
  | .error e => Promise.reject promise e
  | .ok (.object p) => Promise.react p (.imported i promise false) (.imported i promise true) none
  | .ok _ => pure ()

def importDone (i : Nat) (promise : Ref) (v : Value) (throws : Bool) : M Unit := do
  if throws then Promise.reject promise v
  else Promise.resolve promise (.object (← namespaceOf i))

end Modules

end Playpen.Engine
