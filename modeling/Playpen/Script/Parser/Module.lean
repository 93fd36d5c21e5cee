import Playpen.Script.Parser.Stmt

/-!
# Parsing: imports and exports
-/

namespace Playpen.Script.ModuleItem

open Parse
open Playpen.Text (Wide)

def markModule : Parse Unit := modify fun s => { s with sawModule := true }

/-- A text, as it is written. -/
def source (context : String) : Parse Written := do
  match (← token).kind with
  | .text _ _ =>
    let s ← get
    match Lexer.stringAt s.src s.token.start with
    | .ok (w, _, _) =>
      advance
      return w
    | .error c => fail c
  | _ => unexpected context

/-- A name in an import or export list: a word or a text. -/
def moduleName : Parse ModuleName := do
  match (← token).kind with
  | .word n =>
    advance
    return .name n
  | .text w _ =>
    advance
    return .text w
  | _ => unexpected "module specifier"

/-- `with` and the attributes of an import. -/
def attributes : Parse (List (Wide × Wide)) := do
  if (← isWord "with") || ((← isWord "assert") && !(← token).newline) then
    advance
    expect "\x7b" "import attributes"
    let items ← separated "\x7d" "import attributes" do
      let k ← moduleName
      expect ":" "import attributes"
      return (k.wide, (← source "import attributes").wide)
    expect "\x7d" "import attributes"
    return items
  else return []

/-- The end of a declaration that names a module. -/
def sourceTail (context : String) : Parse (Written × List (Wide × Wide)) := do
  let s ← source context
  let attrs ← attributes
  semicolon context
  return (s, attrs)

/-- Whether `type` makes the item behind it a type. -/
def isTypeMark : Parse Bool := do
  if (← isTyped) && (← isWord "type") then
    sees do
      advance
      let t ← token
      match t.kind with
      | .word "as" =>
        -- `type as as x` and `type as x` name types, `type as` alone does not
        advance
        match (← token).kind with
        | .word _ => return (← sees (do advance; return (← token).word?.isSome)) || (← isWord "as")
        | _ => return false
      | .word _ | .text _ _ => return true
      | _ => return false
  else return false

/-- One name of an import list; a type leaves nothing. -/
def importItem : Parse (Option ImportItem) := do
  let isType ← isTypeMark
  if isType then advance
  let t ← token
  let imported ← moduleName
  let item : ImportItem ←
    if ← eatWord "as" then pure (.named imported (← bindingName "import specifier"))
    else match imported with
      | .name n =>
        if isReserved n then
          fail ⟨"Unexpected token", s!"unexpected token '{n}', import specifier", some t.start⟩
        else pure (.named imported n)
      | .text _ => expected "as" "import specifier"
  return if isType then none else some item

def importList : Parse (List (Option ImportItem)) := do
  expect "\x7b" "import declaration"
  let items ← separated "\x7d" "import declaration" importItem
  expect "\x7d" "import declaration"
  return items

/-- `* as name` -/
def importAll : Parse ImportItem := do
  advance
  expectWord "as" "import declaration"
  return .all (← bindingName "import declaration")

/-- What an import binds, up to `from`; types bind nothing. -/
def importItems : Parse (List (Option ImportItem)) := do
  if ← isOp "\x7b" then importList
  else if ← isOp "*" then return [some (← importAll)]
  else match ← bindable? with
    | some n =>
      refuseStrict n (expectedComplaint (← token) "from" "import declaration")
      advance
      if ← eat "," then
        if ← isOp "*" then return [some (.default n), some (← importAll)]
        else return some (.default n) :: (← importList)
      else return [some (.default n)]
    | none => return []

/-- `import name = …` from its name on; unless it is exported, the names it mentions count only where its
own name does. -/
def importEquals (g : Grammar) (isType exported : Bool) : Parse (List Stmt) := do
  let name ← bindingName "import declaration"
  advance
  let isRequire := (← isWord "require") && (← sees (do advance; isOp "("))
  let outer := (← get).facts
  modify fun s => { s with facts := Facts.none }
  let e ← g.assignment
  let own := (← get).facts
  modify fun s => { s with facts := outer }
  semicolon "import declaration"
  if isType then return []
  else
    if exported || (← flags).open_ > 0 then own.mentions.forM mention
    else modify fun s => { s with aliases := (name, own.mentions) :: s.aliases }
    return [.declare (if isRequire then .const else .var) [.initial (.ident name) e]]

def isTypeImport : Parse Bool := do
  if (← isTyped) && (← isWord "type") then
    sees do
      advance
      let t ← token
      match t.kind with
      | .op o => return o == "\x7b" || o == "*"
      | .word "from" => sees (do advance; isWord "from")
      | .word _ => return true
      | _ => return false
  else return false

def importDecl (g : Grammar) : Parse (List Stmt) := do
  advance
  match (← token).kind with
  | .text _ _ =>
    markModule
    let (s, attrs) ← sourceTail "import declaration"
    return [.imports none s attrs]
  | _ =>
    let isType ← isTypeImport
    if isType then advance
    if (← isTyped) && (← sees (do advance; isOp "=")) then importEquals g isType false
    else
      markModule
      let items ← importItems
      expectWord "from" "import declaration"
      let (s, attrs) ← sourceTail "import declaration"
      let kept := items.filterMap id
      kept.forM fun i => Lowered.declare i.binding
      -- a list of types only leaves nothing, an empty list asks for the module itself
      if isType || (kept.isEmpty && !items.isEmpty) then return []
      else return [.imports (if items.isEmpty then none else some kept) s attrs]

/-! ## Exports -/

/-- One name of an export list: the local name, the exported one, and whether it is a type. -/
def exportItem : Parse (ModuleName × ModuleName × Bool × Place) := do
  let isType ← isTypeMark
  if isType then advance
  let place := (← token).start
  let n ← moduleName
  if ← eatWord "as" then return (n, ← moduleName, isType, place)
  else return (n, n, isType, place)

def exportList (isType : Bool) : Parse (List Stmt) := do
  expect "\x7b" "export declaration"
  let items ← separated "\x7d" "export declaration" exportItem
  expect "\x7d" "export declaration"
  let kept := (items.filter fun i => !i.2.2.1).map fun i => (i.1, i.2.1)
  if ← eatWord "from" then
    let (s, _) ← sourceTail "export declaration"
    return if isType then [] else [.exportNames kept (some s)]
  else
    items.forM fun (n, _, _, place) => do
      match n with
      | .name n =>
        if isReserved n then
          fail ⟨s!"A reserved word cannot be used as an exported binding without \x60from\x60",
            s!"unexpected token '{n}', export declaration", some place⟩
        mention n
      | .text _ =>
        complain "A string literal cannot be used as an exported binding without \x60from\x60"
          "unexpected string literal, export declaration" place
    semicolon "export declaration"
    return if isType then [] else [.exportNames kept none]

def exportAll (isType : Bool) : Parse (List Stmt) := do
  advance
  let name ← if ← eatWord "as" then pure (some (← moduleName)) else pure none
  expectWord "from" "export declaration"
  let (s, _) ← sourceTail "export declaration"
  return if isType then [] else [.exportAll name s]

def exportDefault (g : Grammar) : Parse (List Stmt) := do
  advance
  let t ← token
  let isAsync ← Statement.isAsyncDecl
  if t.isWord "function" || isAsync then
    if isAsync then advance
    return (← Statement.functionDecl g isAsync t.start false).map .exportDefaultDecl
  else if t.isWord "class" then
    advance
    return (← Statement.classDecl g [] t.start).map .exportDefaultDecl
  else if t.isOp "@" then
    return (← Statement.plain g .item).map .exportDefaultDecl
  else if (← isTyped) && t.isWord "abstract" && (← Statement.declares (·.isWord "class")) then
    advance
    advance
    return (← Statement.classDecl g [] t.start).map .exportDefaultDecl
  else if (← isTyped) && t.isWord "interface" && (← Statement.declares (·.isFreeWord)) then
    advance
    Statement.interface g
  else
    let e ← inside g.assignment
    semicolon "export default declaration"
    return [.exportDefault e]

/-- Marks the declarations among statements as exported: the first of those that one declaration
leaves. -/
def exported : List Stmt → List Stmt
  | [] => []
  | s :: rest => .exportDecl s :: rest

/-- Whether a declaration that can be exported begins here. -/
def beginsDecl : Parse Bool := do
  match (← token).kind with
  | .word n => return ["var", "let", "const", "function", "class", "async"].contains n
  | .op o => return o == "@"
  | _ => return false

def exportDecl (g : Grammar) : Parse (List Stmt) := do
  advance
  let t ← token
  let typed ← isTyped
  if !(typed && t.isOp "=") then markModule
  if t.isOp "*" then exportAll false
  else if t.isOp "\x7b" then exportList false
  else if t.isWord "default" then exportDefault g
  else if typed && t.isOp "=" then
    advance
    let e ← inside g.assignment
    semicolon "export assignment"
    return [.expr (.assign (.target (.member (.ident "module") "exports" 0)) e 0)]
  else if typed && t.isWord "as" then
    advance
    advance
    discard (bindingName "export declaration")
    semicolon "export declaration"
    return []
  else if typed && t.isWord "type" && (← Statement.declares fun t => t.isOp "\x7b" || t.isOp "*") then
    advance
    if ← isOp "*" then exportAll true else exportList true
  else if typed && t.isWord "import" then
    advance
    return exported (← importEquals g false true)
  else
    match ← if typed then Statement.typed? g true else pure none with
    | some ss => return exported ss
    | none => if ← beginsDecl then return exported (← Statement.plain g .item) else unexpected "export declaration"

end Playpen.Script.ModuleItem
