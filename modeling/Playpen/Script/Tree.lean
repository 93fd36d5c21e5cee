import Playpen.Script.Written

/-!
# Script trees

What a script or module says, with its type annotations gone.  A place is an index into the
characters of the source; it is kept where an error at run time has to be given a line and a column.
A function carries what is known of its names once it has been read: which of them its inner
functions mention, and whether it looks at `arguments` or calls `eval`.
-/

namespace Playpen.Script

open Playpen.Text (Wide)

/-- An index into the characters of a source. -/
abbrev Place := Nat

inductive UnaryOp where
  | minus | plus | not | complement | typeof | void | delete
  deriving DecidableEq, Repr

def UnaryOp.text : UnaryOp → String
  | minus => "-"
  | plus => "+"
  | not => "!"
  | complement => "~"
  | typeof => "typeof"
  | void => "void"
  | delete => "delete"

inductive BinaryOp where
  | add | sub | mul | div | rem | pow
  | bitAnd | bitOr | bitXor | shiftLeft | shiftRight | shiftRightUnsigned
  | equal | notEqual | same | notSame | less | lessEqual | greater | greaterEqual
  | isIn | instanceOf
  | and | or | coalesce
  deriving DecidableEq, Repr

namespace BinaryOp

def text : BinaryOp → String
  | add => "+" | sub => "-" | mul => "*" | div => "/" | rem => "%" | pow => "**"
  | bitAnd => "&" | bitOr => "|" | bitXor => "^"
  | shiftLeft => "<<" | shiftRight => ">>" | shiftRightUnsigned => ">>>"
  | equal => "==" | notEqual => "!=" | same => "===" | notSame => "!=="
  | less => "<" | lessEqual => "<=" | greater => ">" | greaterEqual => ">="
  | isIn => "in" | instanceOf => "instanceof"
  | and => "&&" | or => "||" | coalesce => "??"

/-- Binding strength, from the weakest operators on. -/
def strength : BinaryOp → Nat
  | coalesce => 1
  | or => 2
  | and => 3
  | bitOr => 4
  | bitXor => 5
  | bitAnd => 6
  | equal => 7 | notEqual => 7 | same => 7 | notSame => 7
  | less => 8 | lessEqual => 8 | greater => 8 | greaterEqual => 8 | isIn => 8 | instanceOf => 8
  | shiftLeft => 9 | shiftRight => 9 | shiftRightUnsigned => 9
  | add => 10 | sub => 10
  | mul => 11 | div => 11 | rem => 11
  | pow => 12

def all : List BinaryOp := [
  add, sub, mul, div, rem, pow, bitAnd, bitOr, bitXor, shiftLeft, shiftRight, shiftRightUnsigned,
  equal, notEqual, same, notSame, less, lessEqual, greater, greaterEqual, isIn, instanceOf, and, or,
  coalesce]

def ofText? (s : String) : Option BinaryOp := all.find? (·.text = s)

/-- Operators that may leave their right operand alone. -/
def isLogical : BinaryOp → Bool
  | and | or | coalesce => true
  | _ => false

end BinaryOp

inductive Literal where
  | number (value : Float)
  /-- The digits as they were written, without the `n`. -/
  | bigint (digits : String)
  | text (value : Wide)
  | bool (value : Bool)
  | null
  | regex (pattern flags : String)

/-- A piece of a template between substitutions; it has no value when an escape in it is wrong. -/
structure Quasi where
  value : Option Wide
  raw : String

/-- A comment before a token. -/
structure Comment where
  text : String
  /-- Whether it goes up to the end of its line. -/
  isLine : Bool
  /-- Whether a line ends between what stands before it and it. -/
  newlineBefore : Bool
  newlineAfter : Bool
  deriving Inhabited

/-- How a variable is declared. -/
inductive VarKind where
  | var | let | const | using | awaitUsing
  deriving DecidableEq, Repr

def VarKind.text : VarKind → String
  | var => "var"
  | .let => "let"
  | const => "const"
  | .using => "using"
  | awaitUsing => "await using"

/-- What is known of a function, a class's field or a program, apart from its parts. -/
structure FuncInfo where
  name : Option String
  async : Bool
  generator : Bool
  arrow : Bool
  strict : Bool
  /-- Where its text begins and ends. -/
  start : Place
  stop : Place
  /-- Where its body begins. -/
  bodyPlace : Place
  /-- Names that functions inside of it mention. -/
  innerNames : List String
  /-- Whether it or an arrow function inside mentions `arguments`. -/
  usesArguments : Bool
  /-- Whether it or a function inside calls `eval` by name. -/
  callsEval : Bool
  deriving Inhabited

/-- A name in an import or export, which may be any text. -/
inductive ModuleName where
  | name (s : String)
  | text (w : Wide)
  deriving BEq

def ModuleName.wide : ModuleName → Wide
  | name s => .plain s
  | text w => w

/-- What an import declaration binds. -/
inductive ImportItem where
  | default (binding : String)
  | all (binding : String)
  | named (imported : ModuleName) (binding : String)

def ImportItem.binding : ImportItem → String
  | default b => b
  | all b => b
  | named _ b => b

/-- What accessor or method a member is. -/
inductive MethodKind where
  | method | getter | setter
  deriving DecidableEq, Repr

mutual

inductive Expr where
  | ident (name : String)
  | literal (l : Literal)
  | this
  | newTarget
  | importMeta
  | template (quasis : List Quasi) (parts : List Expr)
  | tagged (tag : Expr) (quasis : List Quasi) (parts : List Expr) (place : Place)
  | array (items : List Expr)
  /-- A missing array element. -/
  | hole
  /-- An array element or argument that stands for all items of a sequence. -/
  | spread (e : Expr)
  | object (members : List Member)
  | func (f : Func)
  | class (c : Class)
  /-- Private names keep their `#`. -/
  | member (target : Expr) (name : String) (place : Place)
  | index (target : Expr) (key : Expr) (place : Place)
  | superMember (name : String) (place : Place)
  | superIndex (key : Expr) (place : Place)
  | call (callee : Expr) (args : List Expr) (place : Place)
  | superCall (args : List Expr) (place : Place)
  | new (callee : Expr) (args : List Expr) (place : Place)
  | importCall (source : Expr) (options : Option Expr) (place : Place)
  /-- An optional chain; inside of it, `optional` marks the links that may break it. -/
  | chain (e : Expr)
  | optional (e : Expr)
  | unary (op : UnaryOp) (e : Expr)
  /-- `++` or `--`, before or behind. -/
  | update (increase before : Bool) (e : Expr)
  | binary (op : BinaryOp) (left right : Expr)
  | hiddenIn (name : String) (e : Expr)
  | assign (target : Pattern) (value : Expr) (place : Place)
  | compound (op : BinaryOp) (target : Expr) (value : Expr) (place : Place)
  | conditional (test yes no : Expr)
  | sequence (es : List Expr)
  | await (e : Expr)
  | yield (e : Option Expr)
  | yieldAll (e : Expr)
  | paren (e : Expr)
  /-- A call marked as free of effects. -/
  | pure (e : Expr)

/-- The key of a member. -/
inductive Key where
  | name (s : String)
  | text (w : Wide)
  | number (x : Float)
  | bigint (digits : String)
  | computed (e : Expr)
  /-- With its `#`. -/
  | hidden (name : String)

/-- A member of an object literal or of a class. -/
inductive Member where
  | property (key : Key) (value : Expr)
  | shorthand (name : String)
  /-- `name = value`, which only a pattern may hold. -/
  | shorthandDefault (name : String) (value : Expr)
  | spread (e : Expr)
  | method (isStatic : Bool) (kind : MethodKind) (key : Key) (f : Func) (decorators : List Expr)
  | field (isStatic : Bool) (key : Key) (value : Option Expr) (info : FuncInfo) (decorators : List Expr)
  /-- A field behind a pair of accessors. -/
  | accessor (isStatic : Bool) (key : Key) (value : Option Expr) (decorators : List Expr)
  /-- A class's static block. -/
  | block (stmts : List Stmt) (info : FuncInfo)
  /-- A member and the comments before it. -/
  | commented (comments : List Comment) (m : Member)

/-- What a binding or an assignment aims at, and the parts of such targets. -/
inductive Pattern where
  | ident (name : String)
  /-- A property. -/
  | target (e : Expr)
  | array (items : List Pattern)
  | object (fields : List Pattern)
  /-- An array element that is passed over; also, no target at all. -/
  | hole
  /-- A part with the value it takes when there is none. -/
  | withDefault (p : Pattern) (value : Expr)
  /-- The last part, which takes all that is left. -/
  | rest (p : Pattern)
  /-- A property of an object pattern; a shorthand's target is its name. -/
  | field (key : Key) (shorthand : Bool) (p : Pattern)
  /-- A declared target with its first value. -/
  | initial (p : Pattern) (value : Expr)

/-- A function: parameters, directives, statements, and for an arrow function without braces the
expression that is its body. -/
inductive Func where
  | mk (info : FuncInfo) (params : List Pattern) (directives : List String) (stmts : List Stmt)
    (value : Option Expr)

inductive Class where
  | mk (info : FuncInfo) (parent : Option Expr) (members : List Member) (decorators : List Expr)

inductive Stmt where
  | empty
  | debugger
  | expr (e : Expr)
  | block (stmts : List Stmt)
  | declare (kind : VarKind) (targets : List Pattern)
  /-- What a loop over properties or items assigns to. -/
  | target (p : Pattern)
  | func (f : Func)
  | class (c : Class)
  | cond (test : Expr) (yes : Stmt)
  | condElse (test : Expr) (yes no : Stmt)
  | loop (start : Stmt) (test update : Option Expr) (body : Stmt)
  | forIn (head : Stmt) (e : Expr) (body : Stmt)
  | forOf (async : Bool) (head : Stmt) (e : Expr) (body : Stmt)
  | while (test : Expr) (body : Stmt)
  | doWhile (body : Stmt) (test : Expr)
  | continue (label : Option String)
  | break (label : Option String)
  | return (e : Option Expr)
  | throw (e : Expr) (place : Place)
  /-- The parameter is a hole when there is none. -/
  | tryCatch (body : List Stmt) (param : Pattern) (handler : List Stmt)
  | tryFinally (body finalizer : List Stmt)
  | tryCatchFinally (body : List Stmt) (param : Pattern) (handler finalizer : List Stmt)
  | switch (e : Expr) (cases : List Stmt)
  /-- A case of a switch; the default has no test. -/
  | case (test : Option Expr) (stmts : List Stmt)
  | labelled (label : String) (body : Stmt)
  | with (e : Expr) (body : Stmt)
  | imports (items : Option (List ImportItem)) (source : Written) (attributes : List (Wide × Wide))
  | exportNames (items : List (ModuleName × ModuleName)) (source : Option Written)
  | exportAll (name : Option ModuleName) (source : Written)
  | exportDecl (s : Stmt)
  | exportDefault (e : Expr)
  | exportDefaultDecl (s : Stmt)
  /-- A statement and the comments before it. -/
  | commented (comments : List Comment) (s : Stmt)
  /-- Comments behind the last statement of a program or a body. -/
  | comments (cs : List Comment)

end

instance : Inhabited Expr := ⟨.this⟩
instance : Inhabited Stmt := ⟨.empty⟩
instance : Inhabited Pattern := ⟨.ident ""⟩

/-- A whole script or module. -/
structure Program where
  directives : List String
  stmts : List Stmt
  info : FuncInfo
  deriving Inhabited

def Func.info : Func → FuncInfo
  | mk info _ _ _ _ => info

def Class.info : Class → FuncInfo
  | mk info _ _ _ => info

/-- A statement without the comments before it. -/
def Stmt.bare : Stmt → Stmt
  | commented _ s => s
  | s => s

end Playpen.Script
