import Playpen.Engine.Value
import Playpen.Script.Tree

/-!
# Code

What a function is compiled to: a list of instructions for a machine with a stack.  The comment on
each instruction shows the top of the stack before and after it, the topmost value last.
-/

namespace Playpen.Engine

open Playpen.Text (Wide)
open Playpen.Script (BinaryOp UnaryOp Place)

/-- How a name may be assigned to. -/
inductive Mutability where
  | mutable
  /-- Assigning is an error. -/
  | constant
  /-- Assigning is an error in strict code, and does nothing elsewhere. -/
  | silent
  deriving DecidableEq, Inhabited

/-- A name of an environment. -/
structure Binding where
  name : String
  mutability : Mutability
  deriving Inhabited

/-- The kind of a member of a class or object that is a function. -/
inductive MemberKind where
  | method | getter | setter
  deriving DecidableEq, Inhabited

inductive Instr where
  /-- `→ v` -/
  | push (v : Value)
  /-- `v →` -/
  | pop
  /-- `a → a a` -/
  | dup
  /-- `a b → a b a b` -/
  | dup2
  /-- `a b → b a` -/
  | swap
  /-- `a b c → c a b` -/
  | bury2
  /-- `a b c d → d a b c` -/
  | bury3
  /-- `→ v` -/
  | this
  /-- `→ v` -/
  | newTarget
  /-- `→ v` -/
  | importMeta (module : Nat)
  -- names
  | getLocal (i : Nat)
  | getLocalChecked (i : Nat)
  | setLocal (i : Nat)
  | setLocalChecked (i : Nat)
  | getEnv (depth i : Nat)
  | getEnvChecked (depth i : Nat) (name : String)
  | setEnv (depth i : Nat)
  | setEnvChecked (depth i : Nat) (name : String)
  | getGlobal (name : String)
  | setGlobal (name : String) (strict : Bool)
  | typeofGlobal (name : String)
  | getName (name : String)
  | setName (name : String) (strict : Bool)
  | typeofName (name : String)
  | deleteName (name : String)
  /-- `→ f this` -/
  | calleeName (name : String)
  | getImport (module i : Nat) (name : String)
  /-- A constant has been assigned to. -/
  | immutable (name : String)
  -- environments
  | pushEnv (bindings : Array Binding) (isVarScope : Bool)
  | popEnv
  /-- The environment is replaced by a copy, so that what has been captured stays. -/
  | copyEnv
  /-- `object →` -/
  | pushWith
  /-- Variables and functions of code given to `eval`; `true` marks functions. -/
  | declareVars (names : Array (String × Bool))
  -- function entry
  | getArg (i : Nat)
  | restArgs (start : Nat)
  /-- The arguments object; a mapped one shares its elements with the slots of the environment. -/
  | makeArguments (mapped : Array (Option Nat))
  | callee
  -- properties
  /-- `o → v` -/
  | getField (k : PropKey)
  /-- `o k → v` -/
  | getIndex
  /-- `o v → v` -/
  | setField (k : PropKey) (strict : Bool)
  /-- `o k v → v` -/
  | setIndex (strict : Bool)
  /-- `o → b` -/
  | deleteField (k : PropKey) (strict : Bool)
  /-- `o k → b` -/
  | deleteIndex (strict : Bool)
  /-- `this k → v` -/
  | getSuper
  /-- `this k v → v` -/
  | setSuper (strict : Bool)
  /-- `o name → v` -/
  | getPrivate
  /-- `o name v → v` -/
  | setPrivate
  /-- `o name → b` -/
  | hasPrivate
  /-- `k → k` -/
  | toKey
  -- operators
  | binary (op : BinaryOp)
  | unary (op : UnaryOp)
  | toNumeric
  /-- `v → v ± 1` for a numeric `v` -/
  | step (increase : Bool)
  /-- `text v → text` -/
  | concatText
  /-- `→ o` -/
  | templateObject (site : Nat) (cooked : Array (Option Wide)) (raw : Array Wide)
  | regex (pattern flags : String)
  -- jumps
  | jump (t : Nat)
  /-- `v →` -/
  | jumpIfFalse (t : Nat)
  /-- `v →` -/
  | jumpIfTrue (t : Nat)
  /-- `v → v` where it jumps, `v →` where it goes on. -/
  | jumpIfFalseKeep (t : Nat)
  | jumpIfTrueKeep (t : Nat)
  | jumpUnlessNullishKeep (t : Nat)
  | jumpUnlessUndefinedKeep (t : Nat)
  /-- `v →` where it jumps, `v → v` where it goes on. -/
  | jumpIfNullish (t : Nat)
  /-- `f this →` where it jumps, unchanged where it goes on. -/
  | jumpIfCalleeNullish (t : Nat)
  /-- One more round of a loop. -/
  | loopTick
  -- calls
  /-- `f this a₁ … aₙ → v` -/
  | call (argc : Nat)
  /-- `f this args → v` -/
  | callSpread
  /-- `f this a₁ … aₙ → v`, where `f` may be `eval` -/
  | callEval (argc : Nat) (strict : Bool)
  /-- `f a₁ … aₙ → v` -/
  | new (argc : Nat)
  /-- `f args → v` -/
  | newSpread
  /-- `args → v` -/
  | superCall
  /-- `v → v`: the parent's constructor has made `v`, which now gets the class's fields. -/
  | initFields
  /-- `specifier → promise` -/
  | importCall (hasOptions : Bool)
  -- literals
  | newArray
  /-- `a v → a` -/
  | arrayPush
  | arrayHole
  /-- `a v → a` -/
  | arraySpread
  | newObject
  /-- `o v → o` -/
  | defineField (k : PropKey)
  /-- `o k v → o` -/
  | defineIndex
  /-- `o f → o` -/
  | defineMember (kind : MemberKind) (k : PropKey) (enumerable : Bool)
  /-- `o k f → o` -/
  | defineMemberIndex (kind : MemberKind) (enumerable : Bool)
  /-- `o v → o` -/
  | setProto
  /-- `o v → o` -/
  | copyData
  /-- `v k₁ … kₙ → o` -/
  | copyDataExcept (n : Nat)
  -- functions and classes
  | closure (i : Nat)
  /-- `k f → k f`: an anonymous function takes the key as its name. -/
  | nameFunction
  /-- As before with a word in front. -/
  | nameMember (kind : MemberKind)
  /-- `parent → f prototype` -/
  | makeClass (i : Nat) (hasParent : Bool)
  /-- `f prototype init → f prototype` -/
  | setFields
  /-- `f → f`: methods find `super` through the object so far below them. -/
  | setHome (depth : Nat)
  /-- `o f → o`; calls `f` with `o` as `this`. -/
  | callStatic
  /-- `→ name` -/
  | newPrivateName (name : String)
  /-- `o name v → o` -/
  | definePrivate
  /-- `o name f → o` -/
  | definePrivateMember (kind : MemberKind)
  -- iteration; an iterator and its method `next` are kept in a local and the one behind it
  /-- `v →` -/
  | getIterator (slot : Nat)
  | getAsyncIterator (slot : Nat)
  /-- `→ v`; jumps without the value at the end. -/
  | iterStep (slot t : Nat)
  /-- `→ promise` -/
  | iterCall (slot : Nat)
  /-- `result → v`; jumps without the value at the end. -/
  | iterUnwrap (t : Nat)
  /-- `→ v`; the method becomes a hole at the end. -/
  | iterItem (slot : Nat)
  /-- `→ array` -/
  | iterRest (slot : Nat)
  /-- Closes an iterator that has not come to its end. -/
  | iterClose (slot : Nat)
  /-- `→ result b`: what closing gives, to be awaited if `b`. -/
  | iterCloseAsync (slot : Nat)
  /-- `result →` -/
  | iterCheckClosed
  /-- `e →`; closes the iterator and throws `e`. -/
  | iterCloseThrow (slot : Nat)
  /-- `→ result b`, ignoring errors. -/
  | iterCloseQuiet (slot : Nat)
  /-- `v →` -/
  | forInStart (slot : Nat)
  /-- `→ k`; jumps without the key at the end. -/
  | forInNext (slot t : Nat)
  -- control
  | pushHandler (t : Nat)
  | popHandler
  /-- `v →` -/
  | throw
  /-- Jumps if the tag in a local is `n`. -/
  | jumpIfTag (slot n t : Nat)
  /-- `v →` -/
  | return
  /-- `v → v`; jumps if the value may be what a derived constructor returns. -/
  | checkDerived (t : Nat)
  /-- Fails. -/
  | raise (kind : ErrorKind) (message : String)
  -- suspension
  | generatorStart
  /-- `v → received mode` -/
  | yield
  /-- `v → received mode` -/
  | await
  /-- `received mode → received`; a mode of 1 throws it and a mode of 2 jumps. -/
  | resume (t : Nat)
  /-- `received mode → result mode`; where the inner iterator has no method for the mode, it jumps with
  `received`. -/
  | delegate (slot : Nat) (async : Bool) (t : Nat)
  /-- `result mode → result`; at the end of the inner iterator, it jumps with `value mode`. -/
  | delegated (t : Nat)
  /-- `result → received mode`, handing on a result of the inner iterator as it is. -/
  | yieldResult
  /-- `o → o`; fails if it cannot be taken apart. -/
  | requireObject
  deriving Inhabited

/-- The text that code comes from. -/
structure Origin where
  /-- The URL of a module. -/
  path : Option String
  src : Array Char
  deriving Inhabited

inductive FuncKind where
  | normal | arrow | method | classConstructor | derivedConstructor
  deriving DecidableEq, Inhabited

/-- A function's code. -/
structure Code where
  name : String
  /-- The number of parameters before the first with a default. -/
  length : Nat
  kind : FuncKind
  async : Bool
  generator : Bool
  strict : Bool
  instrs : Array Instr
  /-- For each instruction, the place that an error is given. -/
  places : Array Place
  locals : Nat
  funcs : Array Code
  origin : Origin
  /-- Where its text begins and ends. -/
  start : Place
  stop : Place
  deriving Inhabited

namespace Instr

/-- The instruction with its target, if it jumps, replaced. -/
def mapTarget (f : Nat → Nat) : Instr → Instr
  | jump t => jump (f t)
  | jumpIfFalse t => jumpIfFalse (f t)
  | jumpIfTrue t => jumpIfTrue (f t)
  | jumpIfFalseKeep t => jumpIfFalseKeep (f t)
  | jumpIfTrueKeep t => jumpIfTrueKeep (f t)
  | jumpUnlessNullishKeep t => jumpUnlessNullishKeep (f t)
  | jumpUnlessUndefinedKeep t => jumpUnlessUndefinedKeep (f t)
  | jumpIfNullish t => jumpIfNullish (f t)
  | jumpIfCalleeNullish t => jumpIfCalleeNullish (f t)
  | iterStep slot t => iterStep slot (f t)
  | iterUnwrap t => iterUnwrap (f t)
  | forInNext slot t => forInNext slot (f t)
  | pushHandler t => pushHandler (f t)
  | jumpIfTag slot n t => jumpIfTag slot n (f t)
  | checkDerived t => checkDerived (f t)
  | resume t => resume (f t)
  | delegate slot async t => delegate slot async (f t)
  | delegated t => delegated (f t)
  | i => i

end Instr

namespace Code

def isConstructor (c : Code) : Bool :=
  match c.kind with
  | .normal => !c.async && !c.generator
  | .classConstructor | .derivedConstructor => true
  | _ => false

def isClass (c : Code) : Bool :=
  match c.kind with
  | .classConstructor | .derivedConstructor => true
  | _ => false

/-- The text of a function in a module. -/
def text? (c : Code) : Option String :=
  if c.origin.path.isSome && !c.isClass then some (String.ofList (c.origin.src.extract c.start c.stop).toList) else none

end Code

end Playpen.Engine
