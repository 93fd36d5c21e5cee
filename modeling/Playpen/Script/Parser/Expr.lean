import Playpen.Script.Parser.Function

/-!
# Parsing: expressions
-/

namespace Playpen.Script.Expression

open Parse

/-! ## Literals -/

/-- What a hole of a template holds up to its closing brace: one expression, of which the transpiler
takes several. -/
def templateHole (g : Grammar) : Parse (List Expr) := do
  let e ← inside g.expr
  if ← isOp "\x7d" then return [e]
  else
    refuse (unexpectedComplaint (← token) "template literal")
    let more ← repeatWhile (do return !((← isOp "\x7d") || (← token).isStop)) (inside g.expr)
    return e :: more

/-- The pieces of a template whose first piece is the current token. -/
def templateParts (g : Grammar) : Parse (List Quasi × List Expr) := do
  let rec go : Nat → List Quasi → List Expr → Parse (List Quasi × List Expr)
    | 0, qs, es => return (qs.reverse, es.reverse)
    | fuel + 1, qs, es => do
      match (← token).kind with
      | .template q true =>
        advance
        return ((q :: qs).reverse, es.reverse)
      | .template q false =>
        advance
        let hole ← templateHole g
        if ← isOp "\x7d" then rescan Lexer.scanTemplate
        else expected "\x7d" "template literal"
        go fuel (q :: qs) (hole.reverse ++ es)
      | _ => unexpected "template literal"
  go ((← get).src.size + 1) [] []

/-- A regular expression, whose first slash the current token begins with. -/
def regex : Parse Expr := do
  let start := (← token).start
  rescan Lexer.scanRegex
  match (← token).kind with
  | .regex p f =>
    modify fun s => { s with regexes := (p, f, start) :: s.regexes }
    advance
    return .literal (.regex p f)
  | _ =>
    modify fun s => { s with token := { s.token with kind := .op "/" } }
    unexpected "regular expression"

/-- An element of an array literal or an argument. -/
def element (g : Grammar) : Parse Expr := do
  if ← eat "..." then return .spread (← g.assignment)
  else g.assignment

def array (g : Grammar) : Parse Expr := do
  expect "[" "array literal"
  let items ← inside (Target.arrayElements (element g) .hole)
  expect "]" "array literal"
  return .array items

/-- Arguments with their parentheses. -/
def arguments (g : Grammar) : Parse (List Expr) := do
  expect "(" "arguments"
  let items ← inside (separated ")" "arguments" (element g))
  expect ")" "arguments"
  return items

/-! ## Objects -/

/-- Whether the current word is a modifier: the key it modifies follows. -/
def modifies (lineBreakEnds star : Bool) : Parse Bool :=
  sees do
    advance
    let t ← token
    if lineBreakEnds && t.newline then return false
    else match t.kind with
      | .word _ | .text _ _ | .number _ _ | .bigint _ | .hidden _ => return true
      | .op o => return o == "[" || (star && o == "*")
      | _ => return false

/-- A method from its parameters on. -/
def method (g : Grammar) (async generator : Bool) (role : FuncRole) (start : Place) : Parse Func := do
  match ← g.func ⟨none, async, generator, role, start⟩ with
  | some f => return f
  | none => unexpected "method definition"

def accessor (g : Grammar) (kind : MethodKind) (start : Place) : Parse Member := do
  advance
  let k ← Target.key g
  let f ← method g false false (if kind = .getter then .getter else .setter) start
  return .method false kind k f []

/-- A member of an object literal. -/
def member (g : Grammar) : Parse Member := do
  let t ← token
  if ← eat "..." then return .spread (← g.assignment)
  else if t.isWord "get" && (← modifies false false) then accessor g .getter t.start
  else if t.isWord "set" && (← modifies false false) then accessor g .setter t.start
  else if (t.isWord "async" && (← modifies true true)) || t.isOp "*" then
    let async ← eatWord "async"
    let generator ← eat "*"
    let k ← Target.key g
    return .method false .method k (← method g async generator .method t.start) []
  else
    let k ← Target.key g
    if (← isOp "(") || (← isOp "<") then
      return .method false .method k (← method g false false .method t.start) []
    else if ← eat ":" then return .property k (← g.assignment)
    else
      match k, t.kind with
      | .name n, .word _ =>
        if !isBindable (← mode) (← flags) n || isStrictWord (← flags) n then
          refuse ⟨"", s!"unexpected token '{n}', expected identifier", some t.start⟩
          if isReserved n then expected ":" "object literal"
        mention n
        if ← isOp "=" then
          modify fun s => { s with covers := t.start :: s.covers }
          advance
          return .shorthandDefault n (← g.assignment)
        else return .shorthand n
      | _, _ => expected ":" "object literal"

def object (g : Grammar) : Parse Expr := do
  expect "\x7b" "object literal"
  let members ← inside (separated "\x7d" "object literal" (member g))
  expect "\x7d" "object literal"
  return .object members

/-! ## Functions and classes as expressions -/

/-- A function from behind the word `function` on. -/
def functionExpr (g : Grammar) (async : Bool) (start : Place) : Parse Expr := do
  advance
  let generator ← eat "*"
  let name ← withFlags (fun f => { f with async := async, generator := generator }) do
    let t ← token
    if t.isOp "(" || t.isOp "<" then return none
    else if !t.isFreeWord then
      refuse (unexpectedComplaint t "function expression")
      return none
    else return some (← bindingName "function expression")
  match ← g.func ⟨name, async, generator, .expression, start⟩ with
  | some f => return .func f
  | none => unexpected "function expression"

/-- Decorators before a class or one of its members. -/
def decorators (g : Grammar) : Parse (List Expr) :=
  repeatWhile (isOp "@") do
    advance
    g.unary

/-- The word that has to follow decorators. -/
def classWord (context : String) : Parse Unit := do
  if ← isWord "class" then advance
  else
    let t ← token
    fail { expectedComplaint t "class" context with brief := (unexpectedComplaint t context).brief }

/-! ## Primary expressions -/

/-- Parentheses and what is inside. -/
def parenthesized (g : Grammar) : Parse Expr := do
  expect "(" "parenthesized expression"
  if ← isOp ")" then
    let t ← token
    fail { unexpectedComplaint t "primary expression" with brief := "Empty parenthesized expression" }
  else if (← token).isStop then expected ")" "parenthesized expression"
  else
    let e ← inside g.expr
    expect ")" "parenthesized expression"
    return .paren e

/-- `import(…)` or `import.meta`. -/
def importExpr (g : Grammar) : Parse Expr := do
  let start := (← token).start
  advance
  if ← isOp "(" then
    let place := (← token).start
    advance
    let t ← token
    if t.isOp ")" then
      fail { unexpectedComplaint t "primary expression" with brief := "import() requires a specifier." }
    let (source, options) ← inside do
      let source ← g.assignment
      if (← eat ",") && !(← isOp ")") then
        let options ← g.assignment
        discard (eat ",")
        return (source, some options)
      else return (source, none)
    let t ← token
    if !t.isOp ")" then
      let text := "Dynamic imports can only accept a module specifier and an optional set of attributes as arguments"
      fail { expectedComplaint t ")" "import call" with brief := text }
    advance
    return .importCall source options place
  else
    expect "." "import.meta"
    if !(← isWord "meta") then
      let t ← token
      complain "The only valid meta property for import is import.meta"
        s!"expected token 'meta', got '{t.kind.detail}' in import.meta" t.start
    advance
    if ← isScript then
      fail ⟨"", "invalid \x60import.meta\x60 expression outside a module", some start⟩
    return .importMeta

/-- Records that `super` stands where it may not. -/
def checkSuper (allowed : Bool) (what : String) : Parse Unit := do
  if !allowed then modify fun s => { s with late := s.late <|> some s!"invalid \x60super\x60 {what}" }

def superExpr (g : Grammar) : Parse Expr := do
  let start := (← token).start
  advance
  if ← isOp "(" then
    checkSuper (← flags).superCall "call"
    return .superCall (← arguments g) start
  else
    checkSuper (← flags).superMember "reference"
    if ← eat "." then
      let t ← token
      match t.kind with
      | .word n =>
        advance
        return .superMember n t.start
      | _ => unexpected "super property"
    else if ← eat "[" then
      let place := (← token).start
      let k ← inside g.expr
      expect "]" "super property"
      return .superIndex k place
    else
      let t ← token
      let text := "'super' can only be used with function calls or in property accesses"
      fail { unexpectedComplaint t "super property" with brief := text }

/-- Whether `async` begins a function expression here. -/
def isAsyncFunction : Parse Bool := do
  if ← isWord "async" then
    sees do
      advance
      let t ← token
      return t.isWord "function" && !t.newline
  else return false

/-- A name in an expression. -/
def identifier : Parse Expr := do
  let t ← token
  match t.kind with
  | .word n =>
    if isBindable (← mode) (← flags) n then
      refuseStrict n (unexpectedComplaint t "primary expression")
      advance
      mention n
      return .ident n
    else unexpected "primary expression"
  | _ => unexpected "primary expression"

def primary (g : Grammar) : Parse Expr := do
  let t ← token
  match t.kind with
  | .number x legacy =>
    if legacy && (← flags).strict then
      refuse ⟨"", "implicit octal literals are not allowed in strict mode", some t.start⟩
    advance
    return .literal (.number x)
  | .bigint ds =>
    advance
    return .literal (.bigint ds)
  | .text w legacy =>
    if legacy && (← flags).strict then
      refuse ⟨"", "octal escape sequences are not allowed in strict mode", some t.start⟩
    advance
    return .literal (.text w)
  | .template q _ =>
    if q.value.isNone then
      complain "Invalid escape sequence" "invalid escape sequence in template literal" t.start
    let (qs, es) ← templateParts g
    return .template qs es
  | .hidden n =>
    advance
    mentionHidden n
    if (← isWord "in") && (← flags).allowIn then return .hiddenIn n (.this)
    else
      let detail := s!"unexpected token '{n}', primary expression"
      fail ⟨"Unexpected token", detail, some t.start⟩
  | .op "(" => parenthesized g
  | .op "[" => array g
  | .op "\x7b" => object g
  | .op "/" => regex
  | .op "/=" => regex
  | .op "@" =>
    let ds ← decorators g
    let start := (← token).start
    classWord "class expression"
    return .class (← g.classTail ds start)
  | .op "<" => if (← mode).markup then g.markup else unexpected "primary expression"
  | .word n =>
    if t.escaped then identifier
    else match n with
      | "this" =>
        advance
        return .this
      | "null" =>
        advance
        return .literal .null
      | "true" =>
        advance
        return .literal (.bool true)
      | "false" =>
        advance
        return .literal (.bool false)
      | "function" => functionExpr g false t.start
      | "class" =>
        advance
        return .class (← g.classTail [] t.start)
      | "super" => superExpr g
      | "import" => importExpr g
      | _ =>
        if ← isAsyncFunction then
          advance
          functionExpr g true t.start
        else identifier
  | _ => unexpected "primary expression"

/-! ## Member access and calls -/

/-- What an expression is followed by: `none` if it ends here.  The flag says that an optional link
has been read. -/
def extend (g : Grammar) (calls : Bool) (e : Expr) (inChain : Bool) : Parse (Option (Expr × Bool)) := do
  let t ← token
  let typed ← isTyped
  match t.kind with
  | .op "." =>
    advance
    let n ← token
    match n.kind with
    | .word name =>
      advance
      return some (.member e name n.start, inChain)
    | .hidden name =>
      advance
      mentionHidden name
      return some (.member e name n.start, inChain)
    | _ => unexpected "property access"
  | .op "?." =>
    if !calls then return none
    else
      advance
      let n ← token
      match n.kind with
      | .op "(" => return some (.call (.optional e) (← arguments g) n.start, true)
      | .op "[" =>
        advance
        let place := (← token).start
        let k ← inside g.expr
        expect "]" "optional chain"
        return some (.index (.optional e) k place, true)
      | .word name =>
        advance
        return some (.member (.optional e) name n.start, true)
      | .hidden name =>
        advance
        mentionHidden name
        return some (.member (.optional e) name n.start, true)
      | .template _ _ =>
        fail ⟨"Tagged template expressions are not permitted in an optional chain",
          "Invalid tagged template on optional chain", some n.start⟩
      | .op "<" =>
        if typed then
          Types.arguments g
          let n ← token
          return some (.call (.optional e) (← arguments g) n.start, true)
        else unexpected "optional chain"
      | _ => unexpected "optional chain"
  | .op "[" =>
    advance
    let place := (← token).start
    let k ← inside g.expr
    expect "]" "property access"
    return some (.index e k place, inChain)
  | .op "(" =>
    if calls then
      match e with
      | .ident "eval" => markEval
      | _ => pure ()
      return some (.call e (← arguments g) t.start, inChain)
    else return none
  | .template _ _ =>
    if inChain then
      complain "Tagged template expressions are not permitted in an optional chain"
        "Invalid tagged template on optional chain" t.start
    let (qs, es) ← templateParts g
    return some (.tagged e qs es t.start, inChain)
  | .op "!" =>
    if typed && !t.newline then
      advance
      return some (e, inChain)
    else return none
  | .op "<" =>
    if typed then
      match ← attempt (Types.expressionArguments g) with
      | some _ =>
        if (← isOp "(") && calls then
          let place := (← token).start
          return some (.call e (← arguments g) place, inChain)
        else return some (e, inChain)
      | none => return none
    else return none
  | _ => return none

/-- An expression with all accesses and calls that follow it. -/
def extended (g : Grammar) (calls : Bool) (e : Expr) : Parse Expr := do
  let rec go : Nat → Expr → Bool → Parse Expr
    | 0, e, inChain => return if inChain then .chain e else e
    | fuel + 1, e, inChain => do
      match ← extend g calls e inChain with
      | some (e, inChain) => go fuel e inChain
      | none => return if inChain then .chain e else e
  go ((← get).src.size + 1) e false

/-- `new` with its callee and arguments; `new` may be nested. -/
def newExpr (g : Grammar) : Nat → Parse Expr
  | 0 => unexpected "new expression"
  | fuel + 1 => do
    let start := (← token).start
    advance
    if ← eat "." then
      if !(← isWord "target") then
        let t ← token
        complain "The only valid meta property for new is new.target"
          s!"expected token 'target', got '{t.kind.detail}' in new.target" t.start
      advance
      return .newTarget
    else
      let callee ←
        if ← isWord "new" then newExpr g fuel
        else if (← isWord "import") && (← sees (do advance; isOp "(")) then
          fail ⟨"Cannot use new with dynamic import", "unexpected token 'import', new expression", some (← token).start⟩
        else primary g
      let callee ← extended g false callee
      if ← isOp "?." then
        let t ← token
        complain "Invalid optional chain from new expression" "unexpected token '?.', new expression" t.start
      let args ← if ← isOp "(" then arguments g else pure []
      return .new callee args start

/-- An expression that may stand on the left of an assignment. -/
def leftHandSide (g : Grammar) : Parse Expr := do
  let e ← if ← isWord "new" then newExpr g ((← get).src.size + 1) else primary g
  extended g true e

/-! ## Operators -/

/-- Whether `await` is an operator here: always inside async functions, elsewhere when what follows
makes no other sense. -/
def isAwait : Parse Bool := do
  if ← isWord "await" then
    if (← flags).async then return true
    else if ← isScript then return false
    else
      sees do
        advance
        let t ← token
        if t.newline then return false
        else match t.kind with
          | .word n => return !(n == "in" || n == "instanceof" || n == "of" || n == "as" || n == "satisfies")
          | .number _ _ | .bigint _ | .text _ _ => return true
          | _ => return false
  else return false

def unaryOp? (t : Token) : Option UnaryOp :=
  match t.kind with
  | .op "-" => some .minus
  | .op "+" => some .plus
  | .op "!" => some .not
  | .op "~" => some .complement
  | .word "typeof" => some .typeof
  | .word "void" => some .void
  | .word "delete" => some .delete
  | _ => none

/-- An operand with `++` or `--` behind it. -/
def updated (g : Grammar) : Parse Expr := do
  let start := (← token).start
  let e ← leftHandSide g
  let t ← token
  if !t.newline && (t.isOp "++" || t.isOp "--") then
    let e ← Target.asSimpleTarget start e
    advance
    return .update (t.isOp "++") false e
  else return e

def unary (g : Grammar) : Parse Expr := do
  let t ← token
  match if t.escaped then none else unaryOp? t with
  | some op =>
    advance
    let e ← g.unary
    match op, e with
    | .delete, .ident n =>
      if (← flags).strict then refuse ⟨"", "cannot delete variables in strict mode", some t.start⟩
      return .unary .delete (.ident n)
    | _, _ => return .unary op e
  | none =>
    if t.isOp "++" || t.isOp "--" then
      advance
      let place := (← token).start
      let e ← g.unary
      return .update (t.isOp "++") true (← Target.asSimpleTarget place e)
    else if t.isOp "<" && (← isTyped) && !(← mode).markup then
      -- a type in front of an operand
      advance
      g.type
      expect ">" "type assertion"
      g.unary
    else if ← isAwait then
      if !(← flags).async then
        complainAs "\x60await\x60 is only allowed within async functions and at the top levels of modules"
          (unexpectedComplaint t "primary expression")
      advance
      return .await (← g.unary)
    else updated g

/-- The binary operator at the current token; a `>` is read anew. -/
def binaryOp? : Parse (Option BinaryOp) := do
  let t ← token
  match t.kind with
  | .op ">" =>
    let r := Lexer.scanGreater (← get).src t.start
    match r.kind with
    | .op o => return BinaryOp.ofText? o
    | _ => return none
  | .op o => return BinaryOp.ofText? o
  | .word "in" => return if (← flags).allowIn && !t.escaped then some .isIn else none
  | .word "instanceof" => return if t.escaped then none else some .instanceOf
  | _ => return none

/-- Whether an expression is an unprotected `&&` or `||`. -/
def isAndOr : Expr → Bool
  | .binary .and _ _ | .binary .or _ _ => true
  | _ => false

def isCoalesce : Expr → Bool
  | .binary .coalesce _ _ => true
  | _ => false

/-- Whether an operand of `**` has an operator in front. -/
def isPrefixed : Expr → Bool
  | .unary _ _ | .await _ => true
  | _ => false

/-- Binary operators at least as strong as `least`, and types behind `as` and `satisfies`. -/
def binaryFrom (g : Grammar) : Nat → Nat → Place → Expr → Parse Expr
  | 0, _, _, left => return left
  | fuel + 1, least, start, left => do
    let t ← token
    if (t.isWord "as" || t.isWord "satisfies") && !t.newline && (← isTyped) && least ≤ 8 then
      advance
      if (← isWord "const") then advance else g.type
      binaryFrom g fuel least start left
    else match ← binaryOp? with
      | none => return left
      | some op =>
        if op.strength < least then return left
        else
          if t.isOp ">" then rescan Lexer.scanGreater
          advance
          let place := (← token).start
          let right ← g.unary
          let right ←
            if op = .pow then binaryFrom g fuel 12 place right
            else binaryFrom g fuel (op.strength + 1) place right
          if op = .pow && isPrefixed left then
            complain "Unexpected exponentiation expression"
              "unexpected token '**', unary expression" start
          if (op = .coalesce && (isAndOr left || isAndOr right)) || (isAndOr (.binary op left right) &&
              (isCoalesce left || isCoalesce right)) then
            complain "Logical expressions and coalesce expressions cannot be mixed"
              "expected ??" start
          match left with
          | .hiddenIn n .this => binaryFrom g fuel least start (.hiddenIn n right)
          | left => binaryFrom g fuel least start (.binary op left right)

/-- An operand and the binary operators behind it. -/
def binary (g : Grammar) : Parse Expr := do
  let start := (← token).start
  let left ← g.unary
  binaryFrom g ((← get).src.size + 1) 0 start left

def conditional (g : Grammar) : Parse Expr := do
  let test ← binary g
  if ← isOp "?" then
    advance
    let yes ← withFlags (fun f => { f with allowIn := true, inConditional := true }) g.assignment
    expect ":" "conditional expression"
    let no ← g.assignment
    return .conditional test yes no
  else return test

/-! ## Arrow functions and assignments -/

/-- Whether `yield` is an operator here. -/
def isYield : Parse Bool := do
  if ← isWord "yield" then
    if (← flags).generator then return true
    else if ← isScript then return false
    else
      sees do
        advance
        let t ← token
        if t.newline then return false
        else match t.kind with
          | .word n => return !(n == "in" || n == "instanceof" || n == "of" || n == "as" || n == "satisfies")
          | .number _ _ | .bigint _ | .text _ _ => return true
          | _ => return false
  else return false

def yieldExpr (g : Grammar) : Parse Expr := do
  let t ← token
  if !(← flags).generator then
    complainAs "A 'yield' expression is only allowed in a generator body."
      (unexpectedComplaint t "primary expression")
  advance
  let t ← token
  if t.newline then return .yield none
  else if ← eat "*" then return .yieldAll (← g.assignment)
  else
    let ends := match t.kind with
      | .stop => true
      | .op o => [")", "]", "\x7d", ",", ";", ":"].contains o
      | .word n => n == "in" || n == "of"
      | _ => false
    if ends then return .yield none else return .yield (some (← g.assignment))

/-- `name => …` -/
def simpleArrow? (g : Grammar) : Parse (Option Expr) := do
  match ← bindable? with
  | none => return none
  | some n =>
    let t ← token
    let script ← isScript
    let isArrow ← sees do
      advance
      let t ← token
      return t.isOp "=>" && !(t.newline && script)
    if isArrow then
      refuseStrict n (unexpectedComplaint t "primary expression")
      let f ← Function.arrow g false t.start do
        advance
        Function.arrowSign
        return [.ident n]
      return some (.func f)
    else return none

/-- What the tokens behind an opening parenthesis tell about it. -/
inductive ArrowGuess where
  /-- No arrow function begins here. -/
  | no
  /-- Only reading its parameters tells. -/
  | maybe
  /-- An arrow function, also if its parameters turn out to be wrong. -/
  | yes
  deriving DecidableEq

/-- Words that no parameter's name follows, but that are taken for its modifiers. -/
def modifierWords : List String := [
  "abstract", "accessor", "const", "declare", "default", "export", "in", "out", "public", "private",
  "protected", "readonly", "static", "override"]

/-- Whether the parenthesis that is the current token opens the parameters of an arrow function. -/
def guessArrow : Parse ArrowGuess := do
  let typed ← isTyped
  advance
  let second ← token
  match second.kind with
  | .op ")" =>
    advance
    let t ← token
    return if t.isOp "=>" || t.isOp "\x7b" then .yes else if t.isOp ":" && typed then .maybe else .no
  | .op "[" => return .maybe
  | .op "\x7b" => return .maybe
  | .op "..." =>
    advance
    match (← token).kind with
    | .word n =>
      return if ["null", "true", "false"].contains n then .no else if isReserved n then .maybe else .yes
    | .number _ _ | .bigint _ | .text _ _ => return .no
    | _ => return .maybe
  | .word n =>
    advance
    let third ← token
    if modifierWords.contains n && third.isFreeWord then
      return if third.isWord "as" then .no else .yes
    else if isReserved n && n != "this" then return .no
    else if third.isOp ":" then return .yes
    else if third.isOp "?" then
      advance
      let t ← token
      return if t.isOp ":" || t.isOp "," || t.isOp "=" || t.isOp ")" then .yes else .no
    else return if third.isOp "," || third.isOp "=" || third.isOp ")" then .maybe else .no
  | _ => return .no

/-- The guess at the current parenthesis or bracket; none is made for a plain script. -/
def arrowGuess : Parse ArrowGuess := do
  if (← isScript) || (← isOp "<") then return .maybe
  else return (← lookahead guessArrow).getD .no

/-- An arrow function in the middle of a conditional: the colon behind it may belong to the
conditional, and then it is not given a type. -/
def arrowInConditional? (g : Grammar) (async : Bool) (start : Place) (head : Parse (List Pattern)) :
    Parse (Option Expr) := do
  match ← attempt (do
      let f ← Function.arrow g async start head
      if ← isOp ":" then return f else unexpected "arrow function") with
  | some f => return some (.func f)
  | none =>
    let plain : Parse (List Pattern) := do
      Types.parameters g
      let (ps, _) ← Function.parameters g
      Function.arrowSign
      return ps
    return (← attempt (Function.arrow g async start plain)).map .func

/-- An arrow function with parentheses, if one begins here. -/
def parenArrow? (g : Grammar) (async : Bool) (start : Place) : Parse (Option Expr) := do
  let head : Parse (List Pattern) := Function.arrowHead g
  let isHead : Parse Bool := sees do
    discard (withFlags (fun f => { f with async := async || f.async }) head)
    return true
  match ← arrowGuess with
  | .no => return none
  | .yes =>
    -- where the guess is wrong, only the engine goes on
    if ← isTyped <||> isHead then return some (.func (← Function.arrow g async start head))
    else return (← orAbandon (Function.arrow g async start head)).map .func
  | .maybe =>
    if !(← isHead) then return none
    else if (← flags).inConditional && (← isTyped) then arrowInConditional? g async start head
    else return some (.func (← Function.arrow g async start head))

/-- `async name => …` or `async (…) => …` -/
def asyncArrow? (g : Grammar) : Parse (Option Expr) := do
  let start := (← token).start
  let script ← isScript
  let kind ← lookahead do
    advance
    let t ← token
    if t.newline then return 0
    else match t.kind with
      | .word n => do
        if n == "function" then return 0
        else
          advance
          let t ← token
          return if t.isOp "=>" && !(t.newline && script) then 1 else 0
      | .op "(" => return 2
      | .op "<" => return 2
      | _ => return 0
  match kind with
  | some 1 =>
    let f ← Function.arrow g true start do
      advance
      let n ← bindingName "async arrow function"
      Function.arrowSign
      return [.ident n]
    return some (.func f)
  | some 2 =>
    let before ← get
    advance
    match ← parenArrow? g true start with
    | some e => return some e
    | none =>
      modify fun s => { before with abandoned := s.abandoned }
      return none
  | _ => return none

/-- An arrow function of any form, if one begins here. -/
def arrow? (g : Grammar) : Parse (Option Expr) := do
  let t ← token
  match t.kind with
  | .op "(" => parenArrow? g false t.start
  | .op "<" => if ← isTyped then parenArrow? g false t.start else return none
  | .word "async" =>
    if t.escaped then return none
    else match ← asyncArrow? g with
      | some e => return some e
      | none => simpleArrow? g
  | .word _ => simpleArrow? g
  | _ => return none

/-- The operator of a compound assignment. -/
def compoundOp? (o : String) : Option BinaryOp :=
  if o.endsWith "=" && !(["==", "===", "!=", "!==", "<=", ">=", "=", "=>"].contains o) then
    BinaryOp.ofText? (o.dropEnd 1).toString
  else none

/-- Whether a comment says that the call behind it has no effects. -/
def marksPure (c : Comment) : Bool :=
  let inner := (c.text.drop 2).toString.trimAsciiStart.toString
  inner.startsWith "@__PURE__" || inner.startsWith "#__PURE__"

/-- Marks the call that an expression begins with. -/
def markedPure : Nat → Expr → Expr
  | 0, e => e
  | fuel + 1, e =>
    match e with
    | .call _ _ _ => .pure e
    | .new _ _ _ => .pure e
    | .paren e => markedPure fuel e
    | .binary op l r => .binary op (markedPure fuel l) r
    | .conditional test yes no => .conditional (markedPure fuel test) yes no
    | e => e

/-- An expression without commas. -/
def unmarked (g : Grammar) : Parse Expr := do
  if ← isYield then yieldExpr g
  else match ← arrow? g with
    | some e => return e
    | none =>
      let start := (← token).start
      let covers := (← get).covers
      let e ← conditional g
      if ← isOp ">" then rescan Lexer.scanGreater
      match (← token).kind with
      | .op "=" =>
        let target ← Target.asTarget start e
        modify fun s => { s with covers := covers }
        advance
        return .assign target (← g.assignment) start
      | .op o =>
        match compoundOp? o with
        | some op =>
          let target ← Target.asSimpleTarget start e
          advance
          return .compound op target (← g.assignment) start
        | none => return e
      | _ => return e

/-- An expression without commas, with what the comment before it says of it. -/
def assignment (g : Grammar) : Parse Expr := do
  let s ← get
  if s.mode.typed && s.comments.any marksPure then return markedPure 1000 (← unmarked g)
  else unmarked g

/-- Expressions with commas between them. -/
def expr (g : Grammar) : Parse Expr := do
  let e ← g.assignment
  if ← isOp "," then
    let more ← repeatWhile (isOp ",") do
      advance
      g.assignment
    return .sequence (e :: more)
  else return e

end Playpen.Script.Expression
