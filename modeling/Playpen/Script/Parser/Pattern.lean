import Playpen.Script.Parser.Types

/-!
# Parsing: targets

Targets of bindings are read as such.  Targets of assignments are read as expressions first, since
only the `=` behind them tells what they are, and are turned into targets by `asTarget`.
-/

namespace Playpen.Script.Target

open Parse

/-- The key of a member: a name, a text, a number, or an expression in brackets. -/
def key (g : Grammar) : Parse Key := do
  match (← token).kind with
  | .word n =>
    advance
    return .name n
  | .text w _ =>
    advance
    return .text w
  | .number x _ =>
    advance
    return .number x
  | .bigint ds =>
    advance
    return .bigint ds
  | .hidden n =>
    advance
    return .hidden n
  | .op "[" =>
    advance
    let e ← inside g.assignment
    expect "]" "computed property name"
    return .computed e
  | _ => unexpected "property name"

/-- A target with the value it takes when there is none. -/
def withDefault (g : Grammar) : Parse Pattern := do
  let p ← g.binding
  if ← eat "=" then return .withDefault p (← inside g.assignment)
  else return p

/-- What comes behind a rest element: nothing, not even a comma. -/
def restEnd (closer : String) : Parse Unit := do
  if ← isOp "," then
    let t ← token
    complain "A rest element must be last in a destructuring pattern" "expected token ']'" t.start
    advance
  else if !(← isOp closer) && !(← token).isStop then expected closer "binding pattern"

def arrayElement (g : Grammar) : Parse Pattern := do
  if ← isOp "," then return .hole
  else if ← eat "..." then
    let p ← g.binding
    if (← isOp "]") then return .rest p
    else
      restEnd "]"
      return .rest p
  else withDefault g

/-- The elements of an array pattern; a comma that nothing precedes leaves a hole. -/
def arrayElements (element : Parse α) (hole : α) : Parse (List α) := do
  let rec go : Nat → List α → Parse (List α)
    | 0, acc => return acc.reverse
    | fuel + 1, acc => do
      let t ← token
      if t.isOp "]" || t.isStop then return acc.reverse
      else if t.isOp "," then
        advance
        go fuel (hole :: acc)
      else
        let acc := (← element) :: acc
        if ← isOp "," then
          advance
          go fuel acc
        else if (← isOp "]") || (← token).isStop then return acc.reverse
        else expected "," "array"
  go ((← get).src.size + 1) []

/-- A property of an object pattern. -/
def field (g : Grammar) : Parse Pattern := do
  if ← eat "..." then
    let p ← g.binding
    if !(← isOp "\x7d") then restEnd "\x7d"
    return .rest p
  else
    let isShorthand ← do
      match (← token).kind with
      | .word _ => pure !(← sees (do advance; isOp ":"))
      | _ => pure false
    if isShorthand then
      let name ← bindingName "object binding pattern"
      let p : Pattern := .ident name
      let p ← if ← eat "=" then pure (Pattern.withDefault p (← inside g.assignment)) else pure p
      return .field (.name name) true p
    else
      let k ← key g
      expect ":" "object binding pattern"
      return .field k false (← withDefault g)

/-- A target of a binding. -/
def binding (g : Grammar) : Parse Pattern := do
  let t ← token
  if t.isOp "[" then
    advance
    let items ← inside (arrayElements (arrayElement g) .hole)
    expect "]" "array binding pattern"
    return .array items
  else if t.isOp "\x7b" then
    advance
    let fields ← inside (separated "\x7d" "object binding pattern" (field g))
    expect "\x7d" "object binding pattern"
    return .object fields
  else return .ident (← bindingName "binding identifier")

/-! ## From expressions to targets -/

def invalidComplaint (place : Place) : Complaint :=
  ⟨"Cannot assign to this expression", "Invalid left-hand side in assignment", some place⟩

def invalid (place : Place) : Parse α := fail (invalidComplaint place)

/-- The inside of parentheses. -/
def stripParens : Nat → Expr → Expr
  | fuel + 1, .paren e => stripParens fuel e
  | _, e => e

/-- A variable or a property as the target of an assignment. -/
def simple? (e : Expr) : Option Pattern :=
  match stripParens 1000 e with
  | .ident n => some (.ident n)
  | .member t n p => some (.target (.member t n p))
  | .index t k p => some (.target (.index t k p))
  | .superMember n p => some (.target (.superMember n p))
  | .superIndex k p => some (.target (.superIndex k p))
  | _ => none

/-- Two variables cannot be assigned to in strict code, which only the engine minds. -/
def checkTarget (place : Place) : Pattern → Parse Unit
  | .ident n => do
    if (← flags).strict && (n == "eval" || n == "arguments") then refuse (invalidComplaint place)
  | _ => pure ()

/-- An expression as a target; `fuel` bounds how deep targets nest. -/
def asTargetFrom (place : Place) : Nat → Expr → Parse Pattern
  | 0, _ => invalid place
  | fuel + 1, e => do
    let element (e : Expr) : Parse Pattern := do
      match e with
      | .hole => return .hole
      | .spread e => return .rest (← asTargetFrom place fuel e)
      | .assign p v _ => return .withDefault p v
      | e => asTargetFrom place fuel e
    match e with
    | .array items => return .array (← items.mapM element)
    | .object members =>
      let one (m : Member) : Parse Pattern := do
        match m with
        | .property k v => return .field k false (← element v)
        | .shorthand n => return .field (.name n) true (.ident n)
        | .shorthandDefault n v => return .field (.name n) true (.withDefault (.ident n) v)
        | .spread e => return .rest (← asTargetFrom place fuel e)
        | _ => invalid place
      return .object (← members.mapM one)
    | e =>
      match simple? e with
      | some p =>
        checkTarget place p
        return p
      | none => invalid place

/-- An expression as a target of an assignment. -/
def asTarget (place : Place) (e : Expr) : Parse Pattern := asTargetFrom place 500 e

/-- An expression as the target of an operator that reads before it writes. -/
def asSimpleTarget (place : Place) (e : Expr) : Parse Expr := do
  match simple? e with
  | some p =>
    checkTarget place p
    return stripParens 1000 e
  | none => invalid place

end Playpen.Script.Target
