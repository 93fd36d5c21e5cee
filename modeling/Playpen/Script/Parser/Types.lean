import Playpen.Script.Parser.Basic

/-!
# Parsing: types

Types leave nothing in the tree; what is left of reading them is where they end and whether they are
well formed.
-/

namespace Playpen.Script.Types

open Parse

/-- Words that name a type by themselves. -/
def isTypeWord (n : String) : Bool := !isReserved n

/-- A name or any other word. -/
def anyWord : Parse String := do
  match (← token).kind with
  | .word n =>
    advance
    return n
  | _ => unexpected "identifier"

/-- A `:` and a type, or nothing. -/
def annotation (g : Grammar) : Parse Unit := do
  if ← eat ":" then g.type

/-- `<…>` behind the name of a type. -/
def arguments (g : Grammar) : Parse Unit := do
  expect "<" "type arguments"
  discard (withFlags (fun f => { f with inConditional := false }) (separated ">" "type arguments" g.type))
  expect ">" "type arguments"

def argumentsIfAny (g : Grammar) : Parse Unit := do
  if (← isOp "<") && !(← token).newline then arguments g

/-- One parameter of a generic declaration. -/
def parameter (g : Grammar) : Parse Unit := do
  let isModifier : Parse Bool := do
    let t ← token
    if t.isWord "const" || t.isWord "in" || t.isWord "out" then
      sees do
        advance
        return (← token).word?.isSome
    else return false
  discard (repeatWhile isModifier advance)
  discard anyWord
  if ← eatWord "extends" then g.type
  if ← eat "=" then g.type

/-- `<…>` behind the name of a generic declaration, or nothing. -/
def parameters (g : Grammar) : Parse Unit := do
  if ← isOp "<" then
    advance
    discard (separated ">" "type parameters" (parameter g))
    expect ">" "type parameters"

/-- The parameters of a function type, parentheses included. -/
def signature (g : Grammar) : Parse Unit := do
  expect "(" "function type"
  let one : Parse Unit := do
    if ← eat "..." then discard g.binding
    else if (← isWord "this") then advance
    else discard g.binding
    discard (eat "?")
    annotation g
  discard (withFlags (fun f => { f with inConditional := false }) (separated ")" "function type" one))
  expect ")" "function type"

/-- What a function gives back: a type or a predicate. -/
def returned (g : Grammar) : Parse Unit := do
  if ← isWord "asserts" then
    let isAssertion ← sees do
      advance
      let t ← token
      return t.word?.isSome && !t.newline
    if isAssertion then
      advance
      advance
      if ← eatWord "is" then g.type
    else g.type
  else if (← token).word?.isSome then
    let isPredicate ← sees do
      advance
      let t ← token
      return t.isWord "is" && !t.newline
    if isPredicate then
      advance
      advance
      g.type
    else g.type
  else g.type

/-- A `:` and what a function gives back, or nothing. -/
def returnAnnotation (g : Grammar) : Parse Unit := do
  if ← eat ":" then returned g

/-- Steps over a member's modifiers; a modifier is one only if a key follows. -/
def memberModifiers : Parse Unit := do
  let isModifier : Parse Bool := do
    let t ← token
    if t.isWord "readonly" || t.isWord "get" || t.isWord "set" then
      sees do
        advance
        let t ← token
        return match t.kind with
          | .word _ | .text _ _ | .number _ _ | .hidden _ => !t.newline
          | .op o => o == "["
          | _ => false
    else return false
  discard (repeatWhile isModifier advance)

/-- A member of an object type. -/
def member (g : Grammar) : Parse Unit := do
  discard (eat "+")
  discard (eat "-")
  memberModifiers
  let t ← token
  if t.isOp "(" || t.isOp "<" then pure ()
  else if t.isWord "new" && (← sees (do advance; return (← isOp "(") || (← isOp "<"))) then advance
  else match t.kind with
    | .word _ | .text _ _ | .number _ _ | .bigint _ => advance
    | .op "[" =>
      advance
      let isIndex ← sees do
        discard anyWord
        return (← isOp ":") || (← isWord "in")
      if isIndex then
        discard anyWord
        if ← eat ":" then g.type
        else
          advance
          g.type
          if ← eatWord "as" then g.type
      else discard g.assignment
      expect "]" "object type"
    | _ => unexpected "object type"
  discard (eat "+")
  discard (eat "-")
  discard (eat "?")
  if (← isOp "(") || (← isOp "<") then
    parameters g
    signature g
    returnAnnotation g
  else annotation g
  -- members end with a semicolon, a comma, a line or the type
  if (← eat ";") || (← eat ",") then pure ()
  else if (← isOp "\x7d") || (← token).newline then pure ()
  else expected ";" "object type"

/-- An object type, braces included. -/
def object (g : Grammar) : Parse Unit := do
  expect "\x7b" "object type"
  let more : Parse Bool := do
    let t ← token
    return !(t.isOp "\x7d" || t.isStop)
  discard (withFlags (fun f => { f with inConditional := false }) (repeatWhile more (member g)))
  expect "\x7d" "object type"

/-- An element of a tuple type. -/
def tupleElement (g : Grammar) : Parse Unit := do
  discard (eat "...")
  let isNamed ← sees do
    discard anyWord
    discard (eat "?")
    isOp ":"
  if isNamed then
    advance
    discard (eat "?")
    advance
  g.type
  discard (eat "?")

/-- A function type from its parameters on. -/
def functionTail (g : Grammar) : Parse Unit := do
  parameters g
  signature g
  expect "=>" "function type"
  returned g

/-- A name with dots in it. -/
def qualifiedName : Parse Unit := do
  discard anyWord
  discard (repeatWhile (isOp ".") do
    advance
    discard anyWord)

/-- A template type. -/
def template (g : Grammar) : Parse Unit := do
  let isOpen : Parse Bool := do
    match (← token).kind with
    | .template _ false => return true
    | _ => return false
  discard (repeatWhile isOpen do
    advance
    g.type
    if ← isOp "\x7d" then rescan Lexer.scanTemplate else unexpected "template type")
  advance

/-- A type without operators. -/
def primary (g : Grammar) : Parse Unit := do
  let t ← token
  match t.kind with
  | .text _ _ | .number _ _ | .bigint _ => advance
  | .template _ _ => template g
  | .op "-" =>
    advance
    match (← token).kind with
    | .number _ _ | .bigint _ => advance
    | _ => unexpected "type"
  | .op "\x7b" => object g
  | .op "[" =>
    advance
    discard (withFlags (fun f => { f with inConditional := false }) (separated "]" "tuple type" (tupleElement g)))
    expect "]" "tuple type"
  | .op "(" =>
    advance
    withFlags (fun f => { f with inConditional := false }) g.type
    expect ")" "type"
  | .word "typeof" =>
    advance
    if ← isWord "import" then
      advance
      expect "(" "import type"
      g.type
      expect ")" "import type"
      discard (repeatWhile (isOp ".") do advance; discard anyWord)
    else qualifiedName
    argumentsIfAny g
  | .word "import" =>
    advance
    expect "(" "import type"
    g.type
    if ← eat "," then discard g.assignment
    expect ")" "import type"
    discard (repeatWhile (isOp ".") do advance; discard anyWord)
    argumentsIfAny g
  | .word n =>
    if ["this", "null", "true", "false", "void"].contains n then advance
    else if isTypeWord n then
      qualifiedName
      argumentsIfAny g
    else unexpected "type"
  | _ => unexpected "type"

/-- A type with what may follow it: `[]`, `[key]`. -/
def suffixed (g : Grammar) : Parse Unit := do
  primary g
  let more : Parse Bool := return (← isOp "[") && !(← token).newline
  discard (repeatWhile more do
    advance
    if !(← isOp "]") then withFlags (fun f => { f with inConditional := false }) g.type
    expect "]" "type")

/-- A type with the operators that stand before it. -/
def operators (g : Grammar) : Parse Unit := do
  let isOperator : Parse Bool := do
    let t ← token
    if t.isWord "keyof" || t.isWord "unique" || t.isWord "readonly" || t.isWord "infer" then
      sees do
        advance
        let t ← token
        return match t.kind with
          | .word n => !t.newline && n != "extends" && n != "is"
          | .op o => o == "\x7b" || o == "[" || o == "("
          | .text _ _ | .number _ _ | .template _ _ => true
          | _ => false
    else return false
  let one : Parse Unit := do
    let isInfer ← isWord "infer"
    advance
    if isInfer then
      -- a constraint of an inferred name
      let hasBound ← sees do
        discard anyWord
        if ← eatWord "extends" then
          withFlags (fun f => { f with inConditional := true }) g.type
          return !(← isOp "?")
        else return false
      if hasBound then
        discard anyWord
        advance
        withFlags (fun f => { f with inConditional := true }) g.type
  discard (repeatWhile isOperator one)
  suffixed g

/-- Types joined by `&` or `|`. -/
def joined (g : Grammar) : Parse Unit := do
  discard (eat "|")
  discard (eat "&")
  operators g
  let more : Parse Bool := return (← isOp "|") || (← isOp "&")
  discard (repeatWhile more do
    advance
    operators g)

/-- Whether a function type begins here. -/
def isFunction (g : Grammar) : Parse Bool := do
  let t ← token
  if t.isOp "<" then return true
  else if t.isOp "(" then
    sees do
      advance
      if (← isOp ")") || (← isOp "...") then return true
      else
        if ← isWord "this" then advance else discard g.binding
        if (← isOp ":") || (← isOp ",") || (← isOp "?") || (← isOp "=") then return true
        else if ← eat ")" then isOp "=>"
        else return false
  else return false

/-- Any type. -/
def type (g : Grammar) : Parse Unit := do
  if ← isFunction g then functionTail g
  else if (← isWord "new") then
    advance
    functionTail g
  else if (← isWord "abstract") && (← sees (do advance; isWord "new")) then
    advance
    advance
    functionTail g
  else
    joined g
    if !(← flags).inConditional && (← isWord "extends") && !(← token).newline then
      advance
      withFlags (fun f => { f with inConditional := true }) g.type
      expect "?" "conditional type"
      g.type
      expect ":" "conditional type"
      g.type

/-- Type arguments in an expression, when what follows does not make `<` an operator. -/
def expressionArguments (g : Grammar) : Parse Unit := do
  arguments g
  let t ← token
  let follows : Bool := match t.kind with
    | .template _ _ => true
    | .op o =>
      o == "(" || t.newline ||
        !(o == "<" || o == ">" || o == "+" || o == "-" || o == "\x7b" || o == "[" || o == "!" || o == "~" ||
          o == "/" || o == "++" || o == "--")
    | .stop => true
    | .word n => t.newline || n == "in" || n == "instanceof" || n == "as" || n == "satisfies"
    | _ => t.newline
  if !follows then unexpected "type arguments"

end Playpen.Script.Types
