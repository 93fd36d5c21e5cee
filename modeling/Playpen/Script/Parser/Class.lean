import Playpen.Script.Parser.Expr

/-!
# Parsing: classes

Members that only declare something (overloads, abstract members, index signatures) leave nothing.
-/

namespace Playpen.Script.ClassDef

open Parse

/-- Words that may stand before a member. -/
def modifierWords : List String := [
  "public", "private", "protected", "static", "abstract", "override", "readonly", "declare", "accessor"]

/-- What the modifiers of a member say. -/
structure Modifiers where
  isStatic : Bool
  /-- Whether the member leaves nothing. -/
  declared : Bool
  /-- Whether the member is a field behind accessors. -/
  accessors : Bool
  /-- Whether a static block follows. -/
  block : Bool

/-- Whether what follows the current word is the rest of a member that the word modifies. -/
def precedesMember (lineBreakEnds : Bool) : Parse Bool :=
  sees do
    advance
    let t ← token
    if lineBreakEnds && t.newline then return false
    else match t.kind with
      | .word _ | .text _ _ | .number _ _ | .bigint _ | .hidden _ => return true
      | .op o => return o == "[" || o == "*"
      | _ => return false

def modifiers (typed : Bool) : Parse Modifiers := do
  let script ← isScript
  let rec go : Nat → Modifiers → Parse Modifiers
    | 0, m => return m
    | fuel + 1, m => do
      let t ← token
      match t.kind with
      | .word n =>
        if t.escaped || !modifierWords.contains n || !(typed || n == "static" || (n == "accessor" && !script)) then return m
        else if n == "static" && (← sees (do advance; isOp "\x7b")) then
          advance
          return { m with block := true }
        else if ← precedesMember (n != "static") then
          advance
          if n == "accessor" then refuse (expectedComplaint (← token) ";" "class field")
          go fuel { m with
            isStatic := m.isStatic || n == "static"
            declared := m.declared || n == "declare" || n == "abstract"
            accessors := m.accessors || n == "accessor" }
        else return m
      | _ => return m
  go 20 ⟨false, false, false, false⟩

/-- Whether an index signature stands here. -/
def isIndexSignature : Parse Bool := do
  if ← isOp "[" then
    sees do
      advance
      match (← token).kind with
      | .word _ =>
        advance
        isOp ":"
      | _ => return false
  else return false

def indexSignature (g : Grammar) : Parse Unit := do
  advance
  advance
  Types.annotation g
  expect "]" "index signature"
  Types.annotation g
  semicolon "index signature"

def isConstructorKey : Key → Bool
  | .name "constructor" => true
  | .text w => w == .plain "constructor"
  | _ => false

/-- Whether a key is followed by what makes it a field and not a modifier. -/
def accessorWord (t : Token) : Parse (Option MethodKind) := do
  if (t.isWord "get" || t.isWord "set") && (← Expression.modifies false false) then
    return some (if t.isWord "get" then .getter else .setter)
  else return none

/-- A static block from its brace on. -/
def staticBlock (g : Grammar) (start : Place) : Parse Member := do
  let place := (← token).start
  expect "\x7b" "static block"
  let (stmts, facts) ← withFacts true <| withFlags
    (fun f => { Function.inner false false f with
      inFunction := false, superCall := false, superMember := true })
    (inside (Function.statements g))
  expect "\x7d" "static block"
  return .block stmts (← Function.info ⟨none, false, false, .method, start⟩ false true place facts)

/-- A field from behind its key on. -/
def field (g : Grammar) (isStatic : Bool) (key : Key) (decorators : List Expr) (start : Place) : Parse Member := do
  if ← isTyped then
    discard (eat "?")
    discard (eat "!")
    Types.annotation g
  let place := (← token).start
  if isConstructorKey key then
    complain "Classes can't have a field named 'constructor'"
      "class may not have field named 'constructor'" start
  if ← isOp "=" then
    advance
    let (e, facts) ← withFacts true <| withFlags
      (fun f => { Function.inner false false f with superCall := false, superMember := true }) g.assignment
    semicolon "class field"
    return .field isStatic key (some e)
      (← Function.info ⟨none, false, false, .method, start⟩ false true place facts) decorators
  else
    semicolon "class field"
    return .field isStatic key none
      (← Function.info ⟨none, false, false, .method, start⟩ false true place Facts.none) decorators

/-- A member; one that only declares leaves nothing. -/
def member (g : Grammar) (derived : Bool) : Parse (List Member) := do
  let typed ← isTyped
  let ds ← Expression.decorators g
  let start := (← token).start
  let m ← modifiers typed
  let keep (x : Member) : List Member := if m.declared then [] else [x]
  if m.block then return [← staticBlock g start]
  else if typed && (← isIndexSignature) then
    indexSignature g
    return []
  else
    let t ← token
    match ← accessorWord t with
    | some kind =>
      advance
      let k ← Target.key g
      match ← g.func ⟨none, false, false, if kind = .getter then .getter else .setter, start⟩ with
      | some f => return keep (.method m.isStatic kind k f ds)
      | none => return []
    | none =>
      let async ← if t.isWord "async" && (← Expression.modifies true true) then (do advance; pure true) else pure false
      let generator ← eat "*"
      let k ← Target.key g
      if typed && !(← token).newline then
        if (← isOp "?") || (← isOp "!") then
          if ← sees (do advance; return (← isOp "(") || (← isOp "<")) then advance
      if async || generator || (← isOp "(") || (← isOp "<") then
        let isConstructor := !m.isStatic && isConstructorKey k
        if isConstructor && async then
          complain "Constructor can't be an async method" "class constructor may not be an async method" start
        if isConstructor && generator then
          complain "Constructor can't be a generator" "class constructor may not be a generator method" start
        let role : FuncRole := if isConstructor then .constructor derived else .method
        match ← g.func ⟨none, async, generator, role, start⟩ with
        | some f => return keep (.method m.isStatic .method k f ds)
        | none => return []
      else
        match ← field g m.isStatic k ds start with
        | .field isStatic k value info ds =>
          return keep (if m.accessors then .accessor isStatic k value ds else .field isStatic k value info ds)
        | f => return keep f

/-- The private names that members declare; a pair of accessors shares its name. -/
def hiddenNames (ms : List Member) : List (String × Option (Bool × MethodKind)) :=
  ms.filterMap fun
    | .method isStatic kind (.hidden n) _ _ => some (n, if kind = .method then none else some (isStatic, kind))
    | .field _ (.hidden n) _ _ _ => some (n, none)
    | _ => none

/-- Whether members declare a private name twice. -/
def repeatsHidden : List (String × Option (Bool × MethodKind)) → Bool
  | [] => false
  | (n, kind) :: rest =>
    rest.any (fun other => other.1 == n && !(match kind, other.2 with
      | some (a, k), some (b, l) => a == b && k != l
      | _, _ => false)) || repeatsHidden rest

def isConstructorOf : Member → Bool
  | .method false .method k _ _ => isConstructorKey k
  | _ => false

/-- What the engine finds wrong with the members of a class. -/
def membersFault? (ms : List Member) : Option String :=
  if (ms.filter isConstructorOf).length > 1 then some "a class may only have one constructor"
  else if repeatsHidden (hiddenNames ms) then some "private identifier has already been declared"
  else none

/-- The members of a class, braces included. -/
def members (g : Grammar) (derived : Bool) : Parse (List Member) := do
  expect "\x7b" "class body"
  let outer := (← get).hidden
  modify fun s => { s with hidden := [] }
  let more : Parse Bool := do
    let t ← token
    return !(t.isOp "\x7d" || t.isStop)
  let ms ← inside <| repeatWhile more do
    let comments := (← get).comments
    if ← eat ";" then return []
    else
      let ms ← member g derived
      return if (← isTyped) && !comments.isEmpty then ms.map (.commented comments) else ms
  let last := (← token).start
  expect "\x7d" "class body"
  let ms := ms.flatten
  if !(← isTyped) then
    match membersFault? ms with
    | some fault => refuse ⟨"", fault, some last⟩
    | none => pure ()
  let own := (hiddenNames ms).map (·.1)
  modify fun s => { s with hidden := s.hidden.filter (!own.contains ·) ++ outer }
  return ms

/-- The name of a class, if it has one. -/
def name? : Parse (Option String) := do
  let t ← token
  match t.kind with
  | .word n =>
    if n == "extends" then return none
    else if n == "implements" && (← isTyped) then
      -- a class may be called so
      if ← sees (do
          advance
          let t ← token
          return t.isOp "\x7b" || t.isWord "extends" || t.isWord "implements") then
        advance
        return some n
      else return none
    else if isReserved n then
      refuse (unexpectedComplaint t "class declaration")
      return none
    else return some (← bindingName "class declaration")
  | _ => return none

/-- A class from behind its keyword on. -/
def tail (g : Grammar) (decorators : List Expr) (start : Place) : Parse Class := do
  let typed ← isTyped
  withFlags (fun f => { f with strict := true }) do
    let name ← name?
    if typed then Types.parameters g
    let parent ←
      if ← eatWord "extends" then
        let e ← Expression.leftHandSide g
        if typed then Types.argumentsIfAny g
        pure (some e)
      else pure none
    if typed && (← eatWord "implements") then
      g.type
      discard (repeatWhile (isOp ",") do
        advance
        g.type)
    let place := (← token).start
    let ms ← members g parent.isSome
    let info ← Function.info ⟨name, false, false, .expression, start⟩ false true place Facts.none
    return .mk info parent ms decorators

end Playpen.Script.ClassDef
