import Playpen.Engine.Modules
import Playpen.Engine.Operation
import Playpen.Engine.Realm

/-!
# Steps

One instruction of the running function.  A step gives a value where it ends a function that a
built-in function has called.
-/

namespace Playpen.Engine

open M
open Playpen.Text (Wide)

namespace Step

open Operation (setLocal)
open Stack (push pop drop peek take)

/-! ## Small parts -/

@[inline]
def frame : M Frame := look (·.frame)

@[inline]
def goto (t : Nat) : M Unit := update fun m => { m with frame := { m.frame with pc := t } }

@[inline]
def getLocal (i : Nat) : M Value := look fun m => m.stack.getD (m.frame.base + i) .undefined

@[inline]
def getEnv (depth i : Nat) : M Value := look fun m =>
  ((m.envs.getD (Lookup.outward m.envs depth m.frame.env) default).slots.getD i .hole)

def setEnv (depth i : Nat) (v : Value) : M Unit := update fun m =>
  { m with envs := m.envs.modify (Lookup.outward m.envs depth m.frame.env) fun e =>
    { e with slots := e.slots.setIfInBounds i v } }

def untimely : M α := raise .reference "access of uninitialized binding"

/-- Replaces the topmost values. -/
def replace (n : Nat) (v : Value) : M Unit := update fun m =>
  { m with stack := (m.stack.shrink (m.stack.size - n)).push v }

def dropMany (n : Nat) : M Unit := update fun m => { m with stack := m.stack.shrink (m.stack.size - n) }

/-- One more round of a loop of the running function. -/
def loopTick : M Unit := do
  let (rounds, limit) ← updateGet fun m =>
    ((m.frame.loops, m.limits.loopIterationLimit),
      { m with frame := { m.frame with loops := m.frame.loops + 1 } })
  match limit with
  | some limit => if rounds > limit then limitError s!"Maximum loop iteration limit {limit} exceeded"
  | none => pure ()

/-! ## Calls -/

def notCallable : M α := typeError "not a callable function"

def notConstructor : M α := typeError "not a constructor"

/-- The name of a built-in function, as its property has it. -/
def nativeName (r : Ref) : M String := look fun m =>
  match (m.heap.getD r default).props.get? (.text (.plain "name")) with
  | some (.data (.text w) _) => w.display
  | _ => ""

def setNative (name : String) : M Unit := update fun m => { m with native := name }

/-- Runs a built-in function, which is known as the one that runs meanwhile. -/
def runNative (fn : Native) (i : Invocation) : M Value := do
  Call.checkLimits
  let before ← look (·.native)
  setNative (← nativeName i.self)
  handle (do
    let v ← Realm.behaviour fn i
    setNative before
    return v) fun e => do
    setNative before
    fail e

/-- The function behind bound functions, with `this` and the arguments that come first. -/
def unbind : Nat → Value → Value → Array Value → M (Value × Value × Array Value)
  | 0, f, this, args => return (f, this, args)
  | n + 1, f, this, args => do
    match f with
    | .object r =>
      match ← Heap.kindOf r with
      | .bound target this first => unbind n target this (first ++ args)
      | _ => return (f, this, args)
    | _ => return (f, this, args)

/-- The longest chain of bound functions. -/
def bindings : Nat := 100000

/-- A call of a proxy. -/
def callProxy (target handler this : Value) (callable : Bool) (args : Array Value) : M Value := do
  if !callable then notCallable
  match handler with
  | .object h =>
    match ← Object.getMethod (.object h) (.ofString "apply") with
    | some trap => call trap handler #[target, this, ← Object.newArray args]
    | none => call target this args
  | _ => typeError "Proxy object has been revoked: apply"

def constructProxy (self target handler : Value) (isConstructor : Bool) (args : Array Value) (newTarget : Value) :
    M Value := do
  if !isConstructor then notConstructor
  match handler with
  | .object h =>
    match ← Object.getMethod (.object h) (.ofString "construct") with
    | some trap =>
      match ← call trap handler #[target, ← Object.newArray args, newTarget] with
      | .object r => return .object r
      | _ => typeError "Proxy trap constructor returned a non-object value"
    | none => construct target args (if newTarget.same self then target else newTarget)
  | _ => typeError "Proxy object has been revoked: construct"

/-- Calls a function whose values, `f this a₁ … aₙ`, are on top of the stack. -/
def callTop (argc : Nat) : M Unit := do
  let f ← peek (argc + 1)
  match f with
  | .object r =>
    match ← Heap.kindOf r with
    | .closure c =>
      let this ← peek argc
      let (args, floor) ← look fun m =>
        (m.stack.extract (m.stack.size - argc) m.stack.size, m.stack.size - argc - 2)
      Call.enter (← Call.frameOf c f this args floor none)
    | .native fn _ _ =>
      let args ← take argc
      let this ← pop
      drop
      push (← runNative fn ⟨this, args, .undefined, r⟩)
    | .bound _ _ _ =>
      let args ← take argc
      dropMany 2
      let (f, this, args) ← unbind bindings f .undefined args
      push (← call f this args)
    | .proxy target handler callable _ =>
      let args ← take argc
      let this ← pop
      drop
      push (← callProxy target handler this callable args)
    | _ => notCallable
  | _ => notCallable

/-- Calls a function with arguments that are in an array on the stack. -/
def callSpread : M Unit := do
  let args ← Operation.elements (← pop)
  Stack.pushAll args
  callTop args.size

/-- Puts the values of a call by `new` on the stack and starts it. -/
def enterConstruct (c : Closure) (f : Value) (args : Array Value) (newTarget : Value) (boundary : Option String) :
    M Unit := do
  let floor ← Stack.height
  let fr ← Call.constructFrameOf c f args newTarget floor boundary
  push f
  push fr.this
  Stack.pushAll args
  Call.enter fr

/-- A call by `new` from a script. -/
def constructWith (f : Value) (args : Array Value) (newTarget : Value) : M Unit := do
  match f with
  | .object r =>
    match ← Heap.kindOf r with
    | .closure c => if c.code.isConstructor then enterConstruct c f args newTarget none else notConstructor
    | .native fn isConstructor _ =>
      if !isConstructor then notConstructor
      push (← runNative fn ⟨.undefined, args, newTarget, r⟩)
    | .bound _ _ _ | .proxy _ _ _ _ => push (← construct f args newTarget)
    | _ => notConstructor
  | _ => notConstructor

def new (argc : Nat) : M Unit := do
  let args ← take argc
  let f ← pop
  constructWith f args f

def newSpread : M Unit := do
  let args ← Operation.elements (← pop)
  let f ← pop
  constructWith f args f

/-- `super(…)`: the parent makes the object. -/
def superCall : M Unit := do
  let args ← Operation.elements (← pop)
  let f ← frame
  let parent ← match f.owner with
    | .object r => pure (Object.protoValue (← Object.getProto r))
    | _ => pure .undefined
  if !(← Object.isConstructor parent) then typeError "super constructor object must be constructor"
  constructWith parent args f.newTarget

/-- Gives a new object the fields of the class whose constructor runs. -/
def initFields : M Unit := do
  let f ← frame
  match f.owner with
  | .object r =>
    match ← Heap.kindOf r with
    | .closure c =>
      match c.fields with
      | .object init => discard (call (.object init) (← peek 0) #[])
      | _ => pure ()
    | _ => pure ()
  | _ => pure ()

/-- A call of `eval` by its name. -/
def callEval (argc : Nat) (strict : Bool) : M Unit := do
  match ← peek (argc + 1) with
  | .object r =>
    if r == Intrinsic.eval then
      let args ← take argc
      dropMany 2
      match args.getD 0 .undefined with
      | .text w =>
        let code ← Builtin.Eval.compile w.display strict true
        let f ← frame
        let c : Closure := { Closure.ofCode code f.env with this := f.this, owner := f.owner, newTarget := f.newTarget }
        let floor ← Stack.height
        let fr ← Call.frameOf c f.func f.this #[] floor none
        push f.func
        push f.this
        Call.enter fr
      | v => push v
    else callTop argc
  | _ => callTop argc

def makeClass (i : Nat) (hasParent : Bool) : M Unit := do
  let parent ← if hasParent then some <$> pop else pure none
  let f ← frame
  let (c, p) ← Closure.allocClass (Operation.closureOf f i) parent
  push (.object c)
  push (.object p)

/-! ## Names -/

def getImport (m i : Nat) (name : String) : M Value := do
  match ← look fun s => (s.modules.getD m default).links.getD i (.namespace m) with
  | .namespace t => return .object (← Modules.namespaceOf t)
  | .slot env i =>
    match ← Object.envSlot env i with
    | .hole => Lookup.undeclared name
    | v => return v

def importMeta (i : Nat) : M Value := do
  match (← Modules.moduleAt i).metaObject with
  | some r => return .object r
  | none =>
    let r ← Heap.allocKind none .ordinary
    Modules.modify i fun m => { m with metaObject := some r }
    return .object r

def nameInstr (i : Instr) : M Unit := do
  match i with
  | .getGlobal name => push (← Lookup.getGlobal name)
  | .setGlobal name strict => Lookup.setGlobal name strict (← pop)
  | .typeofGlobal name =>
    match ← Lookup.global? name with
    | some v => push (.str (← typeOf v))
    | none => push (.str "undefined")
  | .getName name => push (← Lookup.get (← frame).env name).1
  | .setName name strict => do
    let v ← pop
    Lookup.set (← frame).env name strict v
  | .typeofName name =>
    match ← Lookup.get? (← frame).env name with
    | some (v, _) => push (.str (← typeOf v))
    | none => push (.str "undefined")
  | .deleteName name => push (.bool (← Lookup.delete (← frame).env name))
  | .calleeName name =>
    let (f, this) ← Lookup.get (← frame).env name
    push f
    push this
  | .getImport m i name => push (← getImport m i name)
  | .immutable name =>
    drop
    Lookup.immutable name
  | .importMeta i => push (← importMeta i)
  | .declareVars names => Lookup.declare (← frame).env names
  | _ => pure ()

/-! ## Properties and literals -/

def propertyInstr (i : Instr) : M Unit := do
  match i with
  | .setField k strict => do
    let v ← pop
    let o ← pop
    Operation.setField o k strict v
    push v
  | .setIndex strict => do
    let v ← pop
    let k ← pop
    let o ← pop
    Operation.setIndex o k strict v
    push v
  | .deleteField k strict => push (.bool (← Operation.delete (← pop) k strict))
  | .deleteIndex strict => do
    let k ← pop
    let o ← pop
    if o.isNullish then discard (Object.baseOf o)
    push (.bool (← Operation.delete o (← toKey k) strict))
  | .getSuper => do
    let k ← pop
    let this ← pop
    push (← Operation.getSuper (← frame).owner this k)
  | .setSuper strict => do
    let v ← pop
    let k ← pop
    let this ← pop
    Operation.setSuper (← frame).owner this k strict v
    push v
  | .getPrivate => do
    let name ← pop
    push (← Operation.getPrivate (← pop) name)
  | .setPrivate => do
    let v ← pop
    let name ← pop
    let o ← pop
    Operation.setPrivate o name v
    push v
  | .hasPrivate => do
    let name ← pop
    push (.bool (← Operation.hasPrivate (← pop) name))
  | .toKey => push (← toKey (← pop)).value
  | .templateObject site cooked raw => push (← Operation.templateObject site cooked raw)
  | .regex pattern flags => push (.object (← Builtin.Regexes.alloc Intrinsic.regexPrototype pattern flags))
  | .newArray => push (← Object.newArray #[])
  | .arrayPush => do
    let v ← pop
    Operation.arrayPush (← peek 0) v
  | .arrayHole => Operation.arrayHole (← peek 0)
  | .arraySpread => do
    let v ← pop
    Operation.arraySpread (← peek 0) v
  | .newObject => push (.object (← Object.newObject))
  | .defineField k => do
    let v ← pop
    Operation.defineField (← peek 0) k v
  | .defineIndex => do
    let v ← pop
    let k ← pop
    Operation.defineField (← peek 0) (← toKey k) v
  | .defineMember kind k enumerable => do
    let f ← pop
    Operation.nameAccessor k f kind
    Operation.defineMember (← peek 0) k f kind enumerable
  | .defineMemberIndex kind enumerable => do
    let f ← pop
    let k ← pop
    Operation.defineMember (← peek 0) (← toKey k) f kind enumerable
  | .setProto => do
    let v ← pop
    Operation.setProto (← peek 0) v
  | .copyData => do
    let v ← pop
    match ← peek 0 with
    | .object r => Operation.copyData r v []
    | _ => pure ()
  | .copyDataExcept n => do
    let keys ← take n
    let v ← pop
    let r ← Object.newObject
    Operation.copyData r v (← keys.toList.mapM toKey)
    push (.object r)
  | .requireObject => do
    match ← peek 0 with
    | .undefined => typeError "Cannot destructure 'undefined' value"
    | .null => typeError "Cannot destructure 'null' value"
    | _ => pure ()
  | _ => pure ()

/-! ## Functions and classes -/

def functionInstr (i : Instr) : M Unit := do
  match i with
  | .closure i => push (← Operation.closure i)
  | .nameFunction => Operation.nameFunction (← peek 1) (← peek 0) ""
  | .nameMember kind => do
    let k ← toKey (← peek 1)
    Closure.setName (← peek 0) (Operation.wordOf kind ++ (← Closure.nameOfKey k))
  | .makeClass i hasParent => makeClass i hasParent
  | .setFields => do
    let init ← pop
    Operation.modifyClosure (← peek 1) fun c => { c with fields := init }
  | .setHome depth => do
    let home ← peek depth
    Operation.modifyClosure (← peek 0) fun c => { c with home := home }
  | .callStatic => do
    let f ← pop
    discard (call f (← peek 0) #[])
  | .newPrivateName name => push (← Operation.newPrivateName name)
  | .definePrivate => do
    let v ← pop
    let name ← pop
    Operation.addPrivate (← peek 0) name (.data v .all)
  | .definePrivateMember kind => do
    let f ← pop
    let name ← pop
    Operation.addPrivateMember (← peek 0) name f kind
  | .superCall => superCall
  | .initFields => initFields
  | .importCall _ => do
    let v ← pop
    push (← Modules.importCall (← frame).code.origin.path v)
  | .getArg i => push (← look fun m => m.frame.args.getD i .undefined)
  | .restArgs start => do
    let args ← look fun m => m.frame.args.extract start m.frame.args.size
    push (← Object.newArray args)
  | .makeArguments mapped => push (← Operation.makeArguments (← frame) mapped)
  | .callee => push (← frame).func
  | .newTarget => push (← frame).newTarget
  | .pushEnv bindings isVarScope => Operation.pushEnv bindings isVarScope
  | .popEnv => Operation.popEnv
  | .copyEnv => Operation.copyEnv
  | .pushWith => Operation.pushWith (← toObject (← pop))
  | _ => pure ()

/-! ## Iteration -/

/-- Whether closing gave an answer that has to be waited for. -/
def pushAnswer (answer : Option Value) : M Unit := do
  push (answer.getD .undefined)
  push (.bool answer.isSome)

def iterationInstr (i : Instr) : M Unit := do
  match i with
  | .getIterator slot => Operation.keepIter slot (← Iter.get (← pop))
  | .getAsyncIterator slot => Operation.keepIter slot (← Iter.getAsync (← pop))
  | .iterStep slot t =>
    match ← Operation.nextItem slot with
    | some v => push v
    | none => goto t
  | .iterCall slot =>
    match ← Operation.iterAt (← frame) slot with
    | some i => push (← Operation.advancing slot (call i.next i.iterator #[]))
    | none => push .undefined
  | .iterUnwrap t =>
    match ← Iter.unwrap (← Iter.resultObject (← pop)) with
    | some v => push v
    | none => goto t
  | .iterItem slot => push ((← Operation.nextItem slot).getD .undefined)
  | .iterRest slot => push (← Object.newArray (← Operation.restFrom slot Iter.bound #[]))
  | .iterClose slot => Operation.close slot
  | .iterCloseAsync slot => pushAnswer (← Operation.closeAsync slot)
  | .iterCheckClosed =>
    match ← pop with
    | .object _ => pure ()
    | _ => typeError "inner result was not an object"
  | .iterCloseThrow slot => Operation.closeThrow slot (← pop)
  | .iterCloseQuiet slot => pushAnswer (← Operation.closeQuiet slot)
  | .forInStart slot => Operation.forInStart slot (← pop)
  | .forInNext slot t =>
    match ← Operation.forInNext slot with
    | some k => push k
    | none => goto t
  | .delegate slot _ t => do
    let mode ← pop
    let received ← pop
    match ← Operation.delegate slot received mode with
    | some result =>
      push result
      push mode
    | none =>
      push received
      goto t
  | .delegated t => do
    let mode ← pop
    let result ← pop
    let r ← Iter.resultObject result
    if (← Object.getNamed r "done").truthy then
      push (← Object.getNamed r "value")
      push mode
      goto t
    else push result
  | _ => pure ()

/-! ## Jumps -/

/-- Jumps, keeping the value on the stack, or goes on without it. -/
def jumpKeeping (condition : Value → Bool) (t : Nat) : M Unit := do
  if condition (← peek 0) then goto t else drop

def jumpInstr (i : Instr) : M Unit := do
  match i with
  | .jumpIfFalseKeep t => jumpKeeping (fun v => !v.truthy) t
  | .jumpIfTrueKeep t => jumpKeeping Value.truthy t
  | .jumpUnlessNullishKeep t => jumpKeeping (fun v => !v.isNullish) t
  | .jumpUnlessUndefinedKeep t => jumpKeeping (fun v => !v.isUndefined) t
  | .jumpIfNullish t => do
    if (← peek 0).isNullish then
      drop
      goto t
  | .jumpIfCalleeNullish t => do
    if (← peek 1).isNullish then
      dropMany 2
      goto t
  | .pushHandler t => update fun m =>
    { m with frame := { m.frame with
      handlers := ⟨t, m.stack.size - m.frame.base, m.frame.env⟩ :: m.frame.handlers } }
  | .popHandler => update fun m => { m with frame := { m.frame with handlers := m.frame.handlers.tail } }
  | .throw => throwValue (← pop)
  | .jumpIfTag slot n t => do
    match ← getLocal slot with
    | .number x => if x == n.toFloat then goto t
    | _ => pure ()
  | .checkDerived t => do
    match ← peek 0 with
    | .object _ => goto t
    | .undefined => pure ()
    | _ => typeError "derived constructor can only return an Object or undefined"
  | .raise kind message => raise kind message
  | .resume t => do
    let mode ← pop
    match mode with
    | .number x =>
      if x == 1 then throwValue (← pop)
      else if x == 2 then goto t
    | _ => pure ()
  | _ => pure ()

/-! ## Operators -/

def binary (op : Script.BinaryOp) : M Unit := do
  let b ← peek 0
  let a ← peek 1
  replace 2 (← Engine.binary op a b)

def stepNumeric (increase : Bool) : M Unit := do
  match ← peek 0 with
  | .number x => replace 1 (.number (if increase then x + 1 else x - 1))
  | .bigint n => replace 1 (.bigint (if increase then n + 1 else n - 1))
  | _ => pure ()

def concatText : M Unit := do
  let v ← pop
  let t ← pop
  let piece ← match v with
    | .text w => pure w
    | v => toText v
  match t with
  | .text w => push (.text (w ++ piece))
  | _ => push (.text piece)

/-! ## The step -/

/-- An instruction that does not end the running function. -/
@[inline]
def plain (x : M Unit) : M (Option Value) := do
  x
  return none

/-- Carries out an instruction. -/
def execute (i : Instr) : M (Option Value) := do
  match i with
  | .push v => plain (push v)
  | .pop => plain drop
  | .dup => plain do push (← peek 0)
  | .dup2 => plain do
    let a ← peek 1
    let b ← peek 0
    push a
    push b
  | .swap => plain do
    let b ← pop
    let a ← pop
    push b
    push a
  | .bury2 => plain do
    let c ← pop
    let b ← pop
    let a ← pop
    push c
    push a
    push b
  | .bury3 => plain do
    let d ← pop
    let c ← pop
    let b ← pop
    let a ← pop
    push d
    push a
    push b
    push c
  | .this => plain do
    match (← frame).this with
    | .hole => Lookup.undeclared "this"
    | v => push v
  | .getLocal i => plain do push (← getLocal i)
  | .getLocalChecked i => plain do
    match ← getLocal i with
    | .hole => untimely
    | v => push v
  | .setLocal i => plain do setLocal i (← pop)
  | .setLocalChecked i => plain do
    match ← getLocal i with
    | .hole => untimely
    | _ => setLocal i (← pop)
  | .getEnv depth i => plain do push (← getEnv depth i)
  | .getEnvChecked depth i name => plain do
    match ← getEnv depth i with
    | .hole => Lookup.undeclared name
    | v => push v
  | .setEnv depth i => plain do setEnv depth i (← pop)
  | .setEnvChecked depth i name => plain do
    match ← getEnv depth i with
    | .hole => Lookup.uninitialized name
    | _ => setEnv depth i (← pop)
  | .getField k => plain do
    let o ← peek 0
    replace 1 (← Object.getV o k)
  | .getIndex => plain do
    let k ← peek 0
    let o ← peek 1
    replace 2 (← Operation.getIndex o k)
  | .binary op => plain (binary op)
  | .unary op => plain do replace 1 (← unary op (← peek 0))
  | .toNumeric => plain do
    match ← peek 0 with
    | .number _ => pure ()
    | v => replace 1 (← toNumeric v)
  | .step increase => plain (stepNumeric increase)
  | .concatText => plain concatText
  | .jump t => plain (goto t)
  | .jumpIfFalse t => plain do if !(← pop).truthy then goto t
  | .jumpIfTrue t => plain do if (← pop).truthy then goto t
  | .loopTick => plain loopTick
  | .call argc => plain (callTop argc)
  | .callSpread => plain callSpread
  | .callEval argc strict => plain (callEval argc strict)
  | .new argc => plain (new argc)
  | .newSpread => plain newSpread
  | .return => do Call.finish (← pop)
  | .generatorStart => Call.startGenerator
  | .yield => do Call.yield (← pop) false
  | .yieldResult => do Call.yield (← pop) true
  | .await => do Call.await (← pop)
  | .getGlobal _ | .setGlobal _ _ | .typeofGlobal _ | .getName _ | .setName _ _ | .typeofName _ | .deleteName _
  | .calleeName _ | .getImport _ _ _ | .immutable _ | .importMeta _ | .declareVars _ => plain (nameInstr i)
  | .setField _ _ | .setIndex _ | .deleteField _ _ | .deleteIndex _ | .getSuper | .setSuper _ | .getPrivate
  | .setPrivate | .hasPrivate | .toKey | .templateObject _ _ _ | .regex _ _ | .newArray | .arrayPush | .arrayHole
  | .arraySpread | .newObject | .defineField _ | .defineIndex | .defineMember _ _ _ | .defineMemberIndex _ _
  | .setProto | .copyData | .copyDataExcept _ | .requireObject => plain (propertyInstr i)
  | .closure _ | .nameFunction | .nameMember _ | .makeClass _ _ | .setFields | .setHome _ | .callStatic
  | .newPrivateName _ | .definePrivate | .definePrivateMember _ | .superCall | .initFields | .importCall _
  | .getArg _ | .restArgs _ | .makeArguments _ | .callee | .newTarget | .pushEnv _ _ | .popEnv | .copyEnv
  | .pushWith => plain (functionInstr i)
  | .getIterator _ | .getAsyncIterator _ | .iterStep _ _ | .iterCall _ | .iterUnwrap _ | .iterItem _ | .iterRest _
  | .iterClose _ | .iterCloseAsync _ | .iterCheckClosed | .iterCloseThrow _ | .iterCloseQuiet _ | .forInStart _
  | .forInNext _ _ | .delegate _ _ _ | .delegated _ => plain (iterationInstr i)
  | .jumpIfFalseKeep _ | .jumpIfTrueKeep _ | .jumpUnlessNullishKeep _ | .jumpUnlessUndefinedKeep _
  | .jumpIfNullish _ | .jumpIfCalleeNullish _ | .pushHandler _ | .popHandler | .throw | .jumpIfTag _ _ _
  | .checkDerived _ | .raise _ _ | .resume _ => plain (jumpInstr i)

/-- Takes the next instruction. -/
@[inline]
def fetch : M Instr := updateGet fun m =>
  (m.frame.code.instrs.getD m.frame.pc .return, { m with frame := { m.frame with pc := m.frame.pc + 1 } })

def step : M (Option Value) := do execute (← fetch)

end Step

end Playpen.Engine
