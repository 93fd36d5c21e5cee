import Playpen.Decimal.Numeral
import Playpen.Engine.Compile.Basic

/-!
# Compiling: targets and expressions
-/

namespace Playpen.Engine

open Playpen.Script
open Playpen.Text (Wide)

/-- What a target does with its value. -/
inductive BindMode where
  /-- It is assigned. -/
  | assign
  /-- A declared name gets its first value. -/
  | init
  deriving DecidableEq

/-- What a function is compiled as. -/
structure FuncUse where
  name : String
  kind : FuncKind
  /-- Whether its name is a variable inside of it. -/
  named : Bool

/-- The recursive parts of the compiler. -/
structure Compilers where
  /-- An expression; an anonymous function takes the name, if there is one. -/
  expr : Option String → Expr → Compile Unit
  stmt : Stmt → Compile Unit
  /-- A target, which takes the value on the stack. -/
  target : BindMode → Pattern → Compile Unit
  /-- The code of a function, as one of those of the function around it. -/
  func : FuncUse → Func → Compile Nat
  classDef : String → Script.Class → Compile Unit

namespace Compile

variable (c : Compilers)

def Compilers.plain (e : Expr) : Compile Unit := c.expr none e

def keyOfNumber (x : Float) : PropKey := .ofString (Decimal.scriptText x)

/-- The digits of a whole number in the usual form. -/
def bigintOf (digits : String) : Int :=
  match Decimal.integerOfText? digits with
  | some i => i
  | none => 0

/-- The key of a member that is known beforehand. -/
def constKey : Key → Option PropKey
  | .name s => some (.ofString s)
  | .text w => some (.ofWide w)
  | .number x => some (keyOfNumber x)
  | .bigint ds => some (.ofString (toString (bigintOf ds)))
  | .computed _ => none
  | .hidden _ => none

/-- A key as the name of a function. -/
def keyName (k : PropKey) : String := k.wide.display

/-- Whether an expression is a function without a name of its own. -/
def isAnonymous : Nat → Expr → Bool
  | 0, _ => false
  | n + 1, e =>
    match e with
    | .func f => f.info.name.isNone
    | .class k => k.info.name.isNone
    | .paren e => isAnonymous n e
    | _ => false

def literal (l : Literal) : Compile Unit := do
  match l with
  | .number x => push (.number x)
  | .bigint ds => push (.bigint (bigintOf ds))
  | .text w => push (.text w)
  | .bool b => push (.bool b)
  | .null => push .null
  | .regex p f => emit (.regex p f)

/-- An expression without parentheses around it. -/
def unparen : Nat → Expr → Expr
  | 0, e => e
  | n + 1, e =>
    match e with
    | .paren e => unparen n e
    | .pure e => unparen n e
    | e => e

/-! ## Targets -/

def isHidden (name : String) : Bool := name.startsWith "#"

/-- Puts `this` on the stack. -/
def pushThis : Compile Unit := do
  if (← get).lateThis then getVar "%this" else emit .this

/-- Assigns the value on the stack to a property. -/
def assignProperty (e : Expr) : Compile Unit := do
  let strict := (← get).strict
  match unparen 100 e with
  | .ident n => setVar n
  | .member t n _ =>
    c.expr none t
    emit .swap
    if isHidden n then
      getVar n
      emit .swap
      emit .setPrivate
    else emit (.setField (.ofString n) strict)
    emit .pop
  | .index t k _ =>
    c.expr none t
    emit .swap
    c.expr none k
    emit .swap
    emit (.setIndex strict)
    emit .pop
  | .superMember n _ =>
    pushThis
    emit .swap
    push (.str n)
    emit .swap
    emit (.setSuper strict)
    emit .pop
  | .superIndex k _ =>
    pushThis
    emit .swap
    c.expr none k
    emit .swap
    emit (.setSuper strict)
    emit .pop
  | _ => emit (.raise .syntaxError "invalid assignment target")

/-- The name that a function takes from its target. -/
def targetName : Pattern → Option String
  | .ident n => some n
  | _ => none

/-- Elements of an array pattern; the iterator is in a local. -/
def arrayTargets (mode : BindMode) (slot : Nat) : List Pattern → Compile Unit
  | [] => pure ()
  | p :: rest => do
    match p with
    | .hole =>
      emit (.iterItem slot)
      emit .pop
    | .rest q =>
      emit (.iterRest slot)
      c.target mode q
    | q =>
      emit (.iterItem slot)
      c.target mode q
    arrayTargets mode slot rest

/-- Fields of an object pattern; the object stays on the stack.  With a rest, keys are kept in locals. -/
def objectTargets (mode : BindMode) (keep : Bool) : List Pattern → List Nat → Compile Unit
  | [], _ => emit .pop
  | p :: rest, kept => do
    match p with
    | .field k _ q =>
      emit .dup
      match constKey k with
      | some key =>
        if keep then
          let l ← newLocal
          push key.value
          emit (.setLocal l)
          emit (.getField key)
          c.target mode q
          objectTargets mode keep rest (kept ++ [l])
        else
          emit (.getField key)
          c.target mode q
          objectTargets mode keep rest kept
      | none =>
        match k with
        | .computed e => c.expr none e
        | _ => push .undefined
        emit .toKey
        if keep then
          let l ← newLocal
          emit .dup
          emit (.setLocal l)
          emit .getIndex
          c.target mode q
          objectTargets mode keep rest (kept ++ [l])
        else
          emit .getIndex
          c.target mode q
          objectTargets mode keep rest kept
    | .rest q =>
      emit .dup
      kept.forM fun l => emit (.getLocal l)
      emit (.copyDataExcept kept.length)
      c.target mode q
      objectTargets mode keep rest kept
    | _ => objectTargets mode keep rest kept

def isRest : Pattern → Bool
  | .rest _ => true
  | _ => false

/-- Runs a part with an iterator in a local, which is closed if the part fails. -/
def withIterator (slot : Nat) (async : Bool) (body : Compile Unit) : Compile Unit := do
  let failed ← newLabel
  let done ← newLabel
  emit (.pushHandler failed)
  withControl (.iterator slot async) body
  emit .popHandler
  emit (.jump done)
  mark failed
  emit (.iterCloseThrow slot)
  mark done

/-- A target takes the value on the stack. -/
def target (mode : BindMode) (p : Pattern) : Compile Unit := do
  match p with
  | .ident n => if mode == .init then initVar n else setVar n
  | .target e => assignProperty c e
  | .withDefault q e =>
    let l ← newLabel
    emit (.jumpUnlessUndefinedKeep l)
    c.expr (targetName q) e
    mark l
    c.target mode q
  | .initial q e =>
    emit .pop
    c.expr (targetName q) e
    c.target mode q
  | .array items =>
    let slot ← newPair
    emit (.getIterator slot)
    withIterator slot false (arrayTargets c mode slot items)
    emit (.iterClose slot)
  | .object fields =>
    emit .requireObject
    objectTargets c mode (fields.any isRest) fields []
  | .rest q => c.target mode q
  | .field _ _ q => c.target mode q
  | .hole => emit .pop

/-! ## Calls -/

def isSpread : Expr → Bool
  | .spread _ => true
  | _ => false

/-- Elements of an array, added to the one on the stack. -/
def arrayItems : List Expr → Compile Unit
  | [] => pure ()
  | e :: rest => do
    match e with
    | .hole => emit .arrayHole
    | .spread e =>
      c.expr none e
      emit .arraySpread
    | e =>
      c.expr none e
      emit .arrayPush
    arrayItems rest

/-- Arguments as an array. -/
def argumentArray (args : List Expr) : Compile Unit := do
  emit .newArray
  arrayItems c args

/-- A function and the `this` that it is called with. -/
def callee (e : Expr) : Compile Unit := do
  match unparen 100 e with
  | .member t n _ =>
    c.expr none t
    emit .dup
    if isHidden n then
      getVar n
      emit .getPrivate
    else emit (.getField (.ofString n))
    emit .swap
  | .index t k _ =>
    c.expr none t
    emit .dup
    c.expr none k
    emit .getIndex
    emit .swap
  | .superMember n _ =>
    pushThis
    push (.str n)
    emit .getSuper
    pushThis
  | .superIndex k _ =>
    pushThis
    c.expr none k
    emit .getSuper
    pushThis
  | .ident n =>
    match ← location n with
    | .dynamic => emit (.calleeName n)
    | _ =>
      getVar n
      push .undefined
  | e =>
    c.expr none e
    push .undefined

/-- Where the chain that is being compiled ends when it is broken off. -/
def chainEnd : Compile Nat := do
  match (← get).chains with
  | l :: _ => return l
  | [] => newLabel

def call (f : Expr) (args : List Expr) (place : Place) : Compile Unit := do
  match f with
  | .optional f =>
    callee c f
    emit (.jumpIfCalleeNullish (← chainEnd))
  | f => callee c f
  atPlace place do
    let isEval := match f with
      | .ident "eval" => true
      | _ => false
    if args.any isSpread then
      argumentArray c args
      emit .callSpread
    else
      args.forM (c.expr none)
      if isEval then emit (.callEval args.length (← get).strict) else emit (.call args.length)

def superCall (args : List Expr) (place : Place) : Compile Unit := atPlace place do
  argumentArray c args
  emit .superCall
  -- `this` may be given only once
  let l ← newLabel
  match ← location "%this" with
  | .env d i _ =>
    -- the name is found even where `this` has been looked for in vain
    emit (.getEnv d i)
    push .hole
    emit (.binary .same)
    emit (.jumpIfTrue l)
    emit (.raise .reference "Super constructor may only be called once")
    mark l
    emit .dup
    emit (.setEnv d i)
  | _ => pure ()
  emit .initFields

/-! ## Operators -/

/-- An assignment with an operator; `get` has put the present value on top of what `set` needs, and
`drop` removes that below the value. -/
def compoundWith (op : BinaryOp) (value : Compile Unit) (set drop : Compile Unit) : Compile Unit := do
  if op.isLogical then
    let short ← newLabel
    let done ← newLabel
    match op with
    | .and => emit (.jumpIfFalseKeep short)
    | .or => emit (.jumpIfTrueKeep short)
    | _ => emit (.jumpUnlessNullishKeep short)
    value
    set
    emit (.jump done)
    mark short
    drop
    mark done
  else
    value
    emit (.binary op)
    set

def compound (op : BinaryOp) (t : Expr) (value : Expr) : Compile Unit := do
  let strict := (← get).strict
  let named : Option String := match unparen 100 t with
    | .ident n => if op.isLogical then some n else none
    | _ => none
  let v := c.expr named value
  match unparen 100 t with
  | .ident n =>
    getVar n
    compoundWith op v (do emit .dup; setVar n) (pure ())
  | .member o n _ =>
    c.expr none o
    emit .dup
    if isHidden n then
      getVar n
      emit .getPrivate
      compoundWith op v (do getVar n; emit .swap; emit .setPrivate) (do emit .swap; emit .pop)
    else
      emit (.getField (.ofString n))
      compoundWith op v (emit (.setField (.ofString n) strict)) (do emit .swap; emit .pop)
  | .index o k _ =>
    c.expr none o
    c.expr none k
    emit .toKey
    emit .dup2
    emit .getIndex
    compoundWith op v (emit (.setIndex strict)) (do emit .bury2; emit .pop; emit .pop)
  | .superMember n _ =>
    pushThis
    push (.str n)
    emit .dup2
    emit .getSuper
    compoundWith op v (emit (.setSuper strict)) (do emit .bury2; emit .pop; emit .pop)
  | .superIndex k _ =>
    pushThis
    c.expr none k
    emit .toKey
    emit .dup2
    emit .getSuper
    compoundWith op v (emit (.setSuper strict)) (do emit .bury2; emit .pop; emit .pop)
  | _ => emit (.raise .syntaxError "invalid assignment target")

/-- `++` and `--` -/
def update (increase before : Bool) (t : Expr) : Compile Unit := do
  let strict := (← get).strict
  /- the old value is on top of `depth` values that `set` needs -/
  let change (bury : Compile Unit) (set : Compile Unit) : Compile Unit := do
    emit .toNumeric
    if before then
      emit (.step increase)
      set
    else
      emit .dup
      bury
      emit (.step increase)
      set
      emit .pop
  match unparen 100 t with
  | .ident n =>
    getVar n
    change (pure ()) (do emit .dup; setVar n)
  | .member o n _ =>
    c.expr none o
    emit .dup
    if isHidden n then
      getVar n
      emit .getPrivate
      change (emit .bury2) (do getVar n; emit .swap; emit .setPrivate)
    else
      emit (.getField (.ofString n))
      change (emit .bury2) (emit (.setField (.ofString n) strict))
  | .index o k _ =>
    c.expr none o
    c.expr none k
    emit .toKey
    emit .dup2
    emit .getIndex
    change (emit .bury3) (emit (.setIndex strict))
  | .superMember n _ =>
    pushThis
    push (.str n)
    emit .dup2
    emit .getSuper
    change (emit .bury3) (emit (.setSuper strict))
  | .superIndex k _ =>
    pushThis
    c.expr none k
    emit .toKey
    emit .dup2
    emit .getSuper
    change (emit .bury3) (emit (.setSuper strict))
  | _ => emit (.raise .syntaxError "invalid assignment target")

/-- Assigns, leaving the value. -/
def assign (p : Pattern) (e : Expr) : Compile Unit := do
  let strict := (← get).strict
  match p with
  | .ident n =>
    c.expr (some n) e
    emit .dup
    setVar n
  | .target t =>
    match unparen 100 t with
    | .ident n =>
      c.expr none e
      emit .dup
      setVar n
    | .member o n _ =>
      c.expr none o
      if isHidden n then
        getVar n
        c.expr none e
        emit .setPrivate
      else
        c.expr none e
        emit (.setField (.ofString n) strict)
    | .index o k _ =>
      c.expr none o
      c.expr none k
      c.expr none e
      emit (.setIndex strict)
    | .superMember n _ =>
      pushThis
      push (.str n)
      c.expr none e
      emit (.setSuper strict)
    | .superIndex k _ =>
      pushThis
      c.expr none k
      c.expr none e
      emit (.setSuper strict)
    | _ => emit (.raise .syntaxError "invalid assignment target")
  | p =>
    c.expr none e
    emit .dup
    c.target .assign p

/-- A chain that may be broken off, with the value it has then. -/
def chain (broken : Value) (body : Compile Unit) : Compile Unit := do
  let stop ← newLabel
  let done ← newLabel
  modify fun s => { s with chains := stop :: s.chains }
  body
  modify fun s => { s with chains := s.chains.tail }
  emit (.jump done)
  mark stop
  push broken
  mark done

def delete : Nat → Expr → Compile Unit
  | 0, _ => push (.bool true)
  | n + 1, e => do
    let strict := (← get).strict
    match unparen 100 e with
    | .member o name _ =>
      c.expr none o
      emit (.deleteField (.ofString name) strict)
    | .index o k _ =>
      c.expr none o
      c.expr none k
      emit (.deleteIndex strict)
    | .chain e => chain (.bool true) (delete n e)
    | .ident name =>
      match ← location name with
      | .global => emit (.deleteName name)
      | .dynamic => emit (.deleteName name)
      | _ => push (.bool false)
    | .superMember _ _ | .superIndex _ _ => emit (.raise .reference "cannot delete a property of `super`")
    | e =>
      c.expr none e
      emit .pop
      push (.bool true)

/-! ## Object literals -/

def memberKind : MethodKind → MemberKind
  | .method => .method
  | .getter => .getter
  | .setter => .setter

def isProtoKey : Key → Bool
  | .name s => s == "__proto__"
  | .text (.plain s) => s == "__proto__"
  | _ => false

/-- Puts the key of a member on the stack. -/
def pushKey (k : Key) : Compile Unit := do
  match k with
  | .computed e =>
    c.expr none e
    emit .toKey
  | k => push ((constKey k).map PropKey.value |>.getD .undefined)

/-- A member of the object on the stack. -/
def objectMember (m : Member) : Compile Unit := do
  match m with
  | .property k e =>
    if isProtoKey k then
      c.expr none e
      emit .setProto
    else match constKey k with
      | some key =>
        c.expr (some (keyName key)) e
        emit (.defineField key)
      | none =>
        pushKey c k
        c.expr (if isAnonymous 100 e then some "" else none) e
        if isAnonymous 100 e then emit .nameFunction
        emit .defineIndex
  | .shorthand n =>
    getVar n
    emit (.defineField (.ofString n))
  | .shorthandDefault n e =>
    c.expr (some n) e
    emit (.defineField (.ofString n))
  | .spread e =>
    c.expr none e
    emit .copyData
  | .method _ kind k f _ =>
    match constKey k with
    | some key =>
      let i ← c.func ⟨keyName key, .method, false⟩ f
      emit (.closure i)
      emit (.setHome 1)
      emit (.defineMember (memberKind kind) key true)
    | none =>
      pushKey c k
      let i ← c.func ⟨"", .method, false⟩ f
      emit (.closure i)
      emit (.setHome 2)
      emit (.nameMember (memberKind kind))
      emit (.defineMemberIndex (memberKind kind) true)
  | _ => pure ()

/-! ## Expressions -/

/-- The pieces of a template with its values between them. -/
def templatePieces : List Quasi → List Expr → Compile Unit
  | q :: qs, es => do
    match q.value with
    | some w =>
      if !w.isEmpty then
        push (.text w)
        emit .concatText
    | none => pure ()
    match es with
    | e :: es =>
      c.expr none e
      emit .concatText
      templatePieces qs es
    | [] => pure ()
  | [], _ => pure ()

def binary (op : BinaryOp) (a b : Expr) : Compile Unit := do
  c.expr none a
  if op.isLogical then
    let l ← newLabel
    match op with
    | .and => emit (.jumpIfFalseKeep l)
    | .or => emit (.jumpIfTrueKeep l)
    | _ => emit (.jumpUnlessNullishKeep l)
    c.expr none b
    mark l
  else
    c.expr none b
    emit (.binary op)

/-- The value of `yield*`. -/
def yieldAll (e : Expr) : Compile Unit := do
  let async := (← get).async
  let slot ← newPair
  c.expr none e
  emit (if async then .getAsyncIterator slot else .getIterator slot)
  push .undefined
  push (.nat 0)
  let again ← newLabel
  let missing ← newLabel
  let done ← newLabel
  let finished ← newLabel
  let back ← newLabel
  let mode ← newLocal
  mark again
  -- received mode
  emit (.delegate slot async missing)
  -- result mode
  if async then
    emit (.setLocal mode)
    awaitValue
    emit (.getLocal mode)
  emit (.delegated done)
  emit .yieldResult
  emit (.jump again)
  -- there is no method for returning: the value is returned
  mark missing
  emit (.jump back)
  mark done
  -- value mode
  push (.nat 2)
  emit (.binary .same)
  emit (.jumpIfFalse finished)
  mark back
  returnValue
  mark finished

def expr (name : Option String) (e : Expr) : Compile Unit := do
  match e with
  | .ident n =>
    if n == "undefined" then
      match ← location n with
      | .global => push .undefined
      | _ => getVar n
    else getVar n
  | .literal l => literal l
  | .this => pushThis
  | .newTarget => emit .newTarget
  | .importMeta => emit (.importMeta (← get).module)
  | .template qs es =>
    push (.str "")
    templatePieces c qs es
  | .tagged f qs es place =>
    callee c f
    atPlace place do
      let site ← fresh
      let start := (← get).instrs.size
      emit (.templateObject (site * 1000003 + start) (qs.map (·.value)).toArray (qs.map fun q => Wide.plain q.raw).toArray)
      es.forM (c.expr none)
      emit (.call (es.length + 1))
  | .array items => argumentArray c items
  | .hole => push .undefined
  | .spread e => c.expr none e
  | .object ms =>
    emit .newObject
    ms.forM (objectMember c)
  | .func f =>
    let named := f.info.name.isSome
    let i ← c.func ⟨(f.info.name <|> name).getD "", if f.info.arrow then .arrow else .normal, named⟩ f
    emit (.closure i)
  | .class k => c.classDef ((k.info.name <|> name).getD "") k
  | .member t n place =>
    atPlace place do
      c.expr none t
      if isHidden n then
        getVar n
        emit .getPrivate
      else emit (.getField (.ofString n))
  | .index t k place =>
    atPlace place do
      c.expr none t
      c.expr none k
      emit .getIndex
  | .superMember n place =>
    atPlace place do
      pushThis
      push (.str n)
      emit .getSuper
  | .superIndex k place =>
    atPlace place do
      pushThis
      c.expr none k
      emit .getSuper
  | .call f args place => call c f args place
  | .superCall args place => superCall c args place
  | .new f args place =>
    c.expr none f
    atPlace place do
      if args.any isSpread then
        argumentArray c args
        emit .newSpread
      else
        args.forM (c.expr none)
        emit (.new args.length)
  | .importCall source options place =>
    atPlace place do
      c.expr none source
      match options with
      | some o =>
        c.expr none o
        emit .pop
      | none => pure ()
      emit (.importCall options.isSome)
  | .chain e => chain .undefined (c.expr none e)
  | .optional e =>
    c.expr none e
    emit (.jumpIfNullish (← chainEnd))
  | .unary .typeof e =>
    match unparen 100 e with
    | .ident n =>
      match ← location n with
      | .global => emit (.typeofGlobal n)
      | .dynamic => emit (.typeofName n)
      | _ =>
        getVar n
        emit (.unary .typeof)
    | e =>
      c.expr none e
      emit (.unary .typeof)
  | .unary .delete e => delete c 100 e
  | .unary op e =>
    c.expr none e
    emit (.unary op)
  | .update increase before e => update c increase before e
  | .binary op a b => binary c op a b
  | .hiddenIn n e =>
    c.expr none e
    getVar n
    emit .hasPrivate
  | .assign p e place => atPlace place (assign c p e)
  | .compound op t e place => atPlace place (compound c op t e)
  | .conditional t a b =>
    let no ← newLabel
    let done ← newLabel
    c.expr none t
    emit (.jumpIfFalse no)
    c.expr none a
    emit (.jump done)
    mark no
    c.expr none b
    mark done
  | .sequence es =>
    match es.reverse with
    | [] => push .undefined
    | last :: before =>
      before.reverse.forM fun e => do
        c.expr none e
        emit .pop
      c.expr none last
  | .await e =>
    c.expr none e
    awaitValue
  | .yield e =>
    match e with
    | some e => c.expr none e
    | none => push .undefined
    if (← get).async then awaitValue
    emit .yield
    afterYield
  | .yieldAll e => yieldAll c e
  | .paren e => c.expr name e
  | .pure e => c.expr name e

end Compile

end Playpen.Engine
