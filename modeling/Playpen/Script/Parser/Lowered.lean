import Playpen.Script.Parser.Class

/-!
# Parsing: enumerations and namespaces

Both become functions that fill an object, called at once.  A member of an enumeration whose value
can be worked out has that value in the result; a namespace keeps its exported names as variables
and as properties of its object.
-/

namespace Playpen.Script.Lowered

open Parse
open Playpen.Text (Wide)

def isDeclared (name : String) : Parse Bool := return (← get).declared.contains name

def declare (name : String) : Parse Unit := modify fun s => { s with declared := name :: s.declared }

/-! ## Constant values -/

/-- The value of a number as an operand of bit operations. -/
def toBits (x : Float) : Int :=
  if x.isNaN || x.isInf then 0
  else
    let a := x.abs.floor
    let n : Nat := if a < 1.8446744073709552e19 then a.toUInt64.toNat % Nat.pow 2 32 else 0
    let m : Int := if x < 0 then (Int.pow 2 32 - n) % Int.pow 2 32 else n
    m % Int.pow 2 32

def ofBits (n : Int) : Float :=
  let m := n % Int.pow 2 32
  Float.ofInt (if m ≥ Int.pow 2 31 then m - Int.pow 2 32 else m)

/-- The remainder with the sign of the dividend. -/
def remainder (x y : Float) : Float :=
  if y.isInf && !x.isInf then x
  else
    let q := x / y
    let q := if q < 0 then q.ceil else q.floor
    x - y * q

def foldBinary (op : BinaryOp) (x y : Float) : Option Float :=
  let shift := (toBits y % 32).toNat
  match op with
  | .add => some (x + y)
  | .sub => some (x - y)
  | .mul => some (x * y)
  | .div => some (x / y)
  | .rem => some (remainder x y)
  | .pow => some (Float.pow x y)
  | .bitAnd => some (ofBits ((toBits x).toNat &&& (toBits y).toNat : Nat))
  | .bitOr => some (ofBits ((toBits x).toNat ||| (toBits y).toNat : Nat))
  | .bitXor => some (ofBits ((toBits x).toNat ^^^ (toBits y).toNat : Nat))
  | .shiftLeft => some (ofBits (toBits x * Int.pow 2 shift))
  | .shiftRight =>
    let n := toBits x
    some (ofBits ((if n ≥ Int.pow 2 31 then n - Int.pow 2 32 else n) / Int.pow 2 shift))
  | .shiftRightUnsigned => some (Float.ofInt (toBits x / Int.pow 2 shift))
  | _ => none

def literalText : Literal → Option Wide
  | .text w => some w
  | .number x => some (.plain (Decimal.scriptText x))
  | _ => none

/-- The value of an expression that is known beforehand; `members` are those of the enumeration being
read, `enums` those of earlier ones. -/
def fold (members : List (String × Literal)) (enums : List (String × List (String × Literal))) :
    Nat → Expr → Option Literal
  | 0, _ => none
  | fuel + 1, e =>
    match e with
    | .literal (.number x) => some (.number x)
    | .literal (.text w) => some (.text w)
    | .paren e => fold members enums fuel e
    | .ident "Infinity" => some (.number (1.0 / 0.0))
    | .ident "NaN" => some (.number (0.0 / 0.0))
    | .ident n => members.lookup n
    | .member (.ident n) p _ => (enums.lookup n).bind (·.lookup p)
    | .index (.ident n) (.literal (.text (.plain p))) _ => (enums.lookup n).bind (·.lookup p)
    | .template [q] [] => q.value.map .text
    | .template qs es => do
      let values ← es.mapM fun e => do literalText (← fold members enums fuel e)
      let pieces ← qs.mapM (·.value)
      some (.text ((pieces.zip (values ++ [.plain ""])).foldl (fun acc (q, v) => acc ++ q ++ v) (.plain "")))
    | .unary op e => do
      match op, ← fold members enums fuel e with
      | .minus, .number x => some (.number (-x))
      | .plus, .number x => some (.number x)
      | .complement, .number x => some (.number (ofBits (-(toBits x) - 1)))
      | _, _ => none
    | .binary op l r => do
      match ← fold members enums fuel l, ← fold members enums fuel r with
      | .number x, .number y => (foldBinary op x y).map .number
      | a, b => if op = .add then some (.text ((← literalText a) ++ (← literalText b))) else none
    | _ => none

/-- Puts the enumeration's name before its members in an expression whose value is not known. -/
def qualify (enum : String) (members : List String) : Nat → Expr → Expr
  | 0, e => e
  | fuel + 1, e =>
    let q := qualify enum members fuel
    match e with
    | .ident n => if members.contains n then .member (.ident enum) n 0 else e
    | .paren e => .paren (q e)
    | .unary op e => .unary op (q e)
    | .binary op l r => .binary op (q l) (q r)
    | .conditional a b c => .conditional (q a) (q b) (q c)
    | .member t n p => .member (q t) n p
    | .index t k p => .index (q t) (q k) p
    | .call f args p => .call (q f) (args.map q) p
    | .new f args p => .new (q f) (args.map q) p
    | .array items => .array (items.map q)
    | .spread e => .spread (q e)
    | .template qs es => .template qs (es.map q)
    | e => e

/-! ## Enumerations -/

/-- The name of a member. -/
def memberName : Parse Wide := do
  match (← token).kind with
  | .word n =>
    advance
    return .plain n
  | .text w _ =>
    advance
    return w
  | .op "[" =>
    advance
    match (← token).kind with
    | .text w _ =>
      advance
      expect "]" "enum"
      return w
    | .template q true =>
      advance
      expect "]" "enum"
      return q.value.getD (.plain "")
    | _ => fail (.same "Computed property names are not allowed in enums." (← token).start)
  | .number _ _ => fail (.same "An enum member cannot have a numeric name." (← token).start)
  | _ => unexpected "enum"

/-- A number one further on. -/
def successor : Literal → Option Literal
  | .number x => some (.number (x + 1.0))
  | _ => none

/-- A known value as an expression: negative numbers have their sign in front. -/
def valueExpr : Literal → Expr
  | .number x =>
    if x.isNaN then .ident "NaN"
    else
      let pos : Expr := if x.isInf then .ident "Infinity" else .literal (.number x.abs)
      if x < 0 || (x == 0 && Decimal.isNegative x) then .unary .minus pos else pos
  | l => .literal l

/-- Members so far: their statements, last first, and what is known of their values. -/
structure Members where
  stmts : List Stmt
  known : List (String × Literal)
  names : List String
  /-- The value that the next member takes by itself. -/
  next : Option Literal
  last : Option Wide

/-- The object of an enumeration at a key. -/
def entry (enum : String) (key : Expr) : Expr := .index (.ident enum) key 0

/-- Adds a member with its initial value, if one was written. -/
def addMember (enum : String) (enums : List (String × List (String × Literal))) (m : Members)
    (name : Wide) (init : Option Expr) : Members :=
  let key : Expr := .literal (.text name)
  let known : Option Literal := match init with
    | some e => fold m.known ((enum, m.known) :: enums) 500 e
    | none => m.next
  let value : Expr := match known, init with
    | some l, _ => valueExpr l
    | none, some e => qualify enum m.names 500 e
    | none, none =>
      match m.last with
      | some w => .binary .add (.literal (.number 1.0)) (entry enum (.literal (.text w)))
      | none => .literal (.number 0.0)
  let set : Expr := .assign (.target (entry enum key)) value 0
  let stmt : Stmt := match known with
    | some (.text _) => .expr set
    | _ => .expr (.assign (.target (entry enum set)) key 0)
  let plain := (name.plain?).getD ""
  { stmts := stmt :: m.stmts
    known := match known with
      | some l => (plain, l) :: m.known
      | none => m.known
    names := plain :: m.names
    next := known.bind successor
    last := some name }

def plainFunc (params : List Pattern) (stmts : List Stmt) : Expr :=
  .func (.mk { Function.emptyInfo with name := none } params [] stmts none)

/-- An enumeration from behind its keyword on. -/
def enum (g : Grammar) (exported : Bool) : Parse (List Stmt) := do
  let name ← bindingName "enum"
  expect "\x7b" "enum"
  let enums := (← get).enums
  let items ← inside <| separated "\x7d" "enum" do
    let n ← memberName
    if ← eat "=" then return (n, some (← g.assignment)) else return (n, none)
  expect "\x7d" "enum"
  let start : Members := ⟨[], ((enums.lookup name).getD []), [], some (.number 0.0), none⟩
  let ms := items.foldl (fun m (n, e) => addMember name enums m n e) start
  modify fun s => { s with enums := (name, ms.known) :: s.enums }
  if (← flags).ambient then return []
  else
    let body := ms.stmts.reverse ++ [.return (some (.ident name))]
    let call : Expr := .pure (.call (plainFunc [.ident name] body)
      [.binary .or (.ident name) (.object [])] 0)
    if ← isDeclared name then return [.expr (.assign (.ident name) call 0)]
    else
      declare name
      let f ← flags
      let kind : VarKind := if exported || f.open_ > 0 then .let else .var
      return [.declare kind [.initial (.ident name) call]]

/-! ## Namespaces -/

/-- Whether a word occurs in the source. -/
def occursFrom (src : Array Char) (w : List Char) : Nat → Nat → Bool
  | 0, _ => false
  | fuel + 1, i =>
    if i ≥ src.size then false
    else if Lexer.isNameStart (Lexer.charAt src i) then
      let stop := Lexer.skipWhile Lexer.isNamePart src i
      (src.extract i stop).toList = w || occursFrom src w fuel stop
    else occursFrom src w fuel (i + 1)

/-- A name made from `base` that the source does not use: `_base`, `_base2`, … -/
def freshFrom (src : Array Char) (base : String) : Nat → Nat → String
  | 0, _ => "_" ++ base
  | fuel + 1, n =>
    let name := "_" ++ base ++ (if n = 1 then "" else toString n)
    if occursFrom src name.toList (src.size + 1) 0 then freshFrom src base fuel (n + 1) else name

def fresh (base : String) : Parse String := return freshFrom (← get).src base 1000 1

/-- The statements that make a namespace of its own body: `outer` is the object it is a property of,
if it is exported from another. -/
def namespaceStmts (name inner : String) (outer : Option String) (known : Bool) (body : List Stmt) : List Stmt :=
  let object : Expr := match outer with
    | none => .assign (.ident name) (.object []) 0
    | some o =>
      let p : Expr := .member (.ident o) name 0
      .assign (.ident name) (.binary .or p (.assign (.target p) (.object []) 0)) 0
  let call : Stmt := .expr (.call (plainFunc [.ident inner] body) [.binary .or (.ident name) object] 0)
  if known then [call] else [.declare .let [.ident name], call]

/-- Whether a declared target is a single name. -/
def isNamed : Pattern → Bool
  | .initial (.ident _) _ => true
  | _ => false

/-- Assigns exported declarations to the namespace's object as well. -/
def exportStmt (object : String) (s : Stmt) : Parse (List Stmt) := do
  let assignment (name : String) : Expr := .assign (.target (.member (.ident object) name 0)) (.ident name) 0
  let set (name : String) : Stmt := .expr (assignment name)
  match s with
  | .func (.mk info ps ds ss v) => return .func (.mk info ps ds ss v) :: (info.name.map set).toList
  | .class (.mk info p ms ds) => return .class (.mk info p ms ds) :: (info.name.map set).toList
  | .declare .const targets =>
    if targets.all isNamed then
      return [.declare .const (targets.map fun
        | .initial (.ident n) e => .initial (.ident n) (.assign (.target (.member (.ident object) n 0)) e 0)
        | p => p)]
    else return [s, .expr (.sequence ((Names.ofPatterns targets).map assignment))]
  | .declare .let [.initial (.ident n) (.pure e)] =>
    -- an enumeration
    return [.declare .let [.initial (.ident n) (.assign (.target (.member (.ident object) n 0)) (.pure e) 0)]]
  | .declare _ _ =>
    let message := "Namespaces exporting non-const are not supported by Babel. Change to const or see: " ++
      "https://babeljs.io/docs/en/babel-plugin-transform-typescript"
    modify fun s => { s with unsupported := message :: s.unsupported }
    return [s]
  | s => return [s]

/-- Reads a body with declarations of its own. -/
def ownDeclarations (p : Parse α) : Parse α := do
  let old := (← get).declared
  modify fun s => { s with declared := [] }
  let a ← p
  modify fun s => { s with declared := old }
  return a

/-- A namespace from its name on; `outer` is the object it is exported to. -/
def nspace (g : Grammar) : Nat → Option String → Parse (List Stmt)
  | 0, _ => unexpected "namespace"
  | fuel + 1, outer => do
    let name ← bindingName "namespace"
    let inner ← fresh name
    let known ← isDeclared name
    let body ←
      if ← eat "." then ownDeclarations (nspace g fuel (some inner))
      else ownDeclarations do
        expect "\x7b" "namespace"
        let more : Parse Bool := do
          let t ← token
          return !(t.isOp "\x7d" || t.isStop)
        let stmts ← withFlags (fun f => { f with inFunction := false }) <| inside <| repeatWhile more do
          if ← isWord "export" then
            advance
            if (← isWord "namespace") || (← isWord "module") then
              advance
              nspace g fuel (some inner)
            else return (← (← g.statement .item).mapM (exportStmt inner)).flatten
          else g.statement .item
        expect "\x7d" "namespace"
        return stmts.flatten
    if body.isEmpty || (← flags).ambient then return []
    else
      if !known then declare name
      return namespaceStmts name inner outer known body

end Playpen.Script.Lowered
