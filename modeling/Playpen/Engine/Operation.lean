import Playpen.Engine.Builtin.Bytes
import Playpen.Engine.Builtin.Regex
import Playpen.Engine.Call
import Playpen.Engine.Lookup

/-!
# Operations

What the instructions do that are more than a move of values.
-/

namespace Playpen.Engine

open M
open Playpen.Text (Wide)

namespace Operation

/-! ## Properties -/

/-- An element of an array that is there, without asking anything else. -/
def element? (o k : Value) : M (Option Value) := look fun m =>
  match o, k with
  | .object r, .number x =>
    match (m.heap.getD r default).kind with
    | .array items _ _ =>
      let n := x.toUInt64.toNat
      if x == n.toFloat && n < items.size then
        match items.getD n .hole with
        | .hole => none
        | v => some v
      else none
    | _ => none
  | _, _ => none

def getIndex (o k : Value) : M Value := do
  match ← element? o k with
  | some v => return v
  | none =>
    match o with
    | .undefined | .null => discard (Object.baseOf o)
    | _ => pure ()
    Object.getV o (← toKey k)

def refused (strict : Bool) (k : PropKey) : M Unit := do
  if strict then typeError s!"cannot set non-writable property: {← Object.keyText k}"

def setField (o : Value) (k : PropKey) (strict : Bool) (v : Value) : M Unit := do
  if !(← Object.setV o k v) then refused strict k

/-- A value as an object takes it; a typed array converts what it takes. -/
def taken (o : Value) (k : PropKey) (v : Value) : M Value := do
  match o, k with
  | .object r, .index _ =>
    match ← Heap.kindOf r with
    | .typedArray t _ _ _ => Builtin.Bytes.toElement t v
    | _ => return v
  | _, _ => return v

def setIndex (o k : Value) (strict : Bool) (v : Value) : M Unit := do
  match o with
  | .undefined | .null => discard (Object.baseOf o)
  | _ => pure ()
  let k ← toKey k
  if !(← Object.setV o k (← taken o k v)) then refused strict k

def delete (o : Value) (k : PropKey) (strict : Bool) : M Bool := do
  let r ← toObject o
  let deleted ← Object.delete r k
  if strict && !deleted then typeError "Cannot delete property"
  return deleted

/-- The object in which `super` looks. -/
def superObject (owner : Value) : M Ref := do
  let home ← do
    match owner with
    | .object f =>
      match ← Heap.kindOf f with
      | .closure c => pure c.home
      | _ => pure .undefined
    | _ => pure .undefined
  match home with
  | .object h =>
    match ← Object.getProto h with
    | some p => return p
    | none => typeError "cannot convert 'null' or 'undefined' to object"
  | _ => typeError "cannot convert 'null' or 'undefined' to object"

def getSuper (owner this k : Value) : M Value := do
  let p ← superObject owner
  Object.getFor p (← toKey k) this

def setSuper (owner this k : Value) (strict : Bool) (v : Value) : M Unit := do
  let p ← superObject owner
  let k ← toKey k
  if !(← Object.setFor p k v this) then refused strict k

/-! ## Private names -/

def privateKey (name : Value) : PropKey :=
  match name with
  | .symbol id => .symbol id
  | _ => .text (.plain "")

def privateSlot (r : Ref) (name : Value) : M (Option Slot) :=
  look fun m => (m.heap.getD r default).privates.get? (privateKey name)

def missingPrivate : M α := typeError "Private property does not exist"

def getPrivate (o name : Value) : M Value := do
  let r ← toObject o
  match ← privateSlot r name with
  | some (.data v _) => return v
  | some (.accessor g _ _ _) =>
    if g.isUndefined then typeError "private property was defined without a getter" else call g o #[]
  | none => missingPrivate

def setPrivate (o name v : Value) : M Unit := do
  let r ← toObject o
  match ← privateSlot r name with
  | some (.data _ a) =>
    if !a.writable then typeError "private method is not writable"
    Heap.modifyObj r fun o => { o with privates := o.privates.set (privateKey name) (.data v .all) }
  | some (.accessor _ s _ _) =>
    if s.isUndefined then typeError "private property was defined without a setter" else discard (call s o #[v])
  | none => missingPrivate

def hasPrivate (o name : Value) : M Bool := do
  match o with
  | .object r => return (← privateSlot r name).isSome
  | o => typeError s!"right-hand side of 'in' should be an object, got \x60{← typeOf o}\x60"

/-- Gives an object a private name, which it may not have yet. -/
def addPrivate (o name : Value) (s : Slot) : M Unit := do
  match o with
  | .object r =>
    if (← privateSlot r name).isSome then typeError "Private field already exists on prototype"
    Heap.modifyObj r fun o => { o with privates := o.privates.set (privateKey name) s }
  | _ => pure ()

/-- A getter or setter joins its partner. -/
def addPrivateMember (o name f : Value) (kind : MemberKind) : M Unit := do
  match o with
  | .object r =>
    let old ← privateSlot r name
    let put (s : Slot) : M Unit :=
      Heap.modifyObj r fun o => { o with privates := o.privates.set (privateKey name) s }
    match kind, old with
    | .method, _ => addPrivate o name (.data f ⟨false, false, false⟩)
    | .getter, some (.accessor _ s _ _) => put (.accessor f s false false)
    | .getter, _ => put (.accessor f .undefined false false)
    | .setter, some (.accessor g _ _ _) => put (.accessor g f false false)
    | .setter, _ => put (.accessor .undefined f false false)
  | _ => pure ()

def newPrivateName (name : String) : M Value := updateGet fun m =>
  (.symbol m.symbols.size, { m with symbols := m.symbols.push (some (.plain name)) })

/-! ## Literals -/

def templateObject (site : Nat) (cooked : Array (Option Wide)) (raw : Array Wide) : M Value := do
  match ← look fun m => m.templates.lookup site with
  | some r => return .object r
  | none =>
    let strings ← Object.newArray (cooked.map fun w => (w.map Value.text).getD .undefined)
    let raws ← Object.newArray (raw.map Value.text)
    match strings, raws with
    | .object r, .object q =>
      freeze q
      Heap.setSlot r (.ofString "raw") (.data raws .none)
      freeze r
      update fun m => { m with templates := (site, r) :: m.templates }
      return strings
    | _, _ => return strings
where
  freeze (r : Ref) : M Unit := do
    discard (Object.preventExtensions r)
    (← Object.keys r).forM fun k => do
      discard (Object.define r k { Desc.empty with writable := some false, configurable := some false })

/-- A property of an object literal. -/
def defineField (o : Value) (k : PropKey) (v : Value) : M Unit := do
  match o with
  | .object r => Object.create r k v
  | _ => pure ()

def defineMember (o : Value) (k : PropKey) (f : Value) (kind : MemberKind) (enumerable : Bool) : M Unit := do
  match o with
  | .object r =>
    let d : Desc := { Desc.empty with enumerable := some enumerable, configurable := some true }
    Object.defineOrThrow r k <|
      match kind with
      | .method => .data f ⟨true, enumerable, true⟩
      | .getter => { d with get := some f }
      | .setter => { d with set := some f }
  | _ => pure ()

def setProto (o v : Value) : M Unit := do
  match o, v with
  | .object r, .object p => discard (Object.setProto r (some p))
  | .object r, .null => discard (Object.setProto r none)
  | _, _ => pure ()

/-- Copies the enumerable properties of a value that are not excluded. -/
def copyData (target : Ref) (v : Value) (except : List PropKey) : M Unit := do
  match v with
  | .undefined | .null => pure ()
  | v =>
    let source ← toObject v
    (← Object.keys source).forM fun k => do
      if !except.contains k then
        match ← Object.getOwn source k with
        | some s => if s.isEnumerable then Object.create target k (← Object.get source k)
        | none => pure ()

def arrayPush (a v : Value) : M Unit := do
  match a with
  | .object r => discard (Object.pushShort r v)
  | _ => pure ()

/-- Adds a missing element. -/
def arrayHole (a : Value) : M Unit := do
  match a with
  | .object r => Heap.modifyObj r fun o =>
    match o with
    | ⟨p, e, ps, hs, .array items n w⟩ => ⟨p, e, ps, hs, .array (items.push .hole) (n + 1) w⟩
    | o => o
  | _ => pure ()

def arraySpread (a v : Value) : M Unit := do
  match a with
  | .object r =>
    let items ← Iter.toArray v
    Heap.modifyObj r fun o =>
      match o with
      | ⟨p, e, ps, hs, .array old n w⟩ => ⟨p, e, ps, hs, .array (old ++ items) (n + items.size) w⟩
      | o => o
  | _ => pure ()

/-- Elements of an array that was made for a call. -/
def elements (a : Value) : M (Array Value) := do
  match a with
  | .object r => look fun m =>
    match (m.heap.getD r default).kind with
    | .array items _ _ => items.map Value.filled
    | _ => #[]
  | _ => return #[]

/-! ## Functions -/

/-- The closure of a function's code where it stands. -/
def closureOf (f : Frame) (i : Nat) : Closure :=
  let code := f.code.funcs.getD i default
  let c := Closure.ofCode code f.env
  if code.kind == .arrow then { c with this := f.this, owner := f.owner, newTarget := f.newTarget } else c

def closure (i : Nat) : M Value := do
  return .object (← Closure.alloc (closureOf (← look (·.frame)) i))

def modifyClosure (f : Value) (change : Closure → Closure) : M Unit := do
  match f with
  | .object r => Heap.modifyObj r fun o =>
    match o.kind with
    | .closure c => { o with kind := .closure (change c) }
    | _ => o
  | _ => pure ()

def isClosure (f : Value) : M Bool := do
  match f with
  | .object r =>
    match ← Heap.kindOf r with
    | .closure _ => return true
    | _ => return false
  | _ => return false

/-- Names a function by a key; a class that names itself keeps its own. -/
def nameFunction (k f : Value) (before : String) : M Unit := do
  if ← isClosure f then
    let own ← match f with
      | .object r => look fun m =>
        match (m.heap.getD r default).props.get? (.ofString "name") with
        | some (.data (.text (.plain "")) _) => false
        | none => false
        | _ => true
      | _ => pure true
    if !own then Closure.setName f (before ++ (← Closure.nameOfKey (← toKey k)))

def wordOf : MemberKind → String
  | .method => ""
  | .getter => "get "
  | .setter => "set "

/-- The name of a getter or setter says what it is. -/
def nameAccessor (k : PropKey) (f : Value) (kind : MemberKind) : M Unit := do
  match kind with
  | .method => pure ()
  | kind => Closure.setName f (wordOf kind ++ (← Closure.nameOfKey k))

/-- The object of the arguments. -/
def makeArguments (f : Frame) (mapped : Array (Option Nat)) : M Value := do
  let sloppy := !f.code.strict && f.code.kind != .arrow
  let mapped := (mapped.toList.take f.args.size).toArray
  let r ← Heap.allocKind (some Intrinsic.objectPrototype) (.arguments mapped f.env)
  let items := (Array.range f.args.size).map fun n => (PropKey.index n, Slot.data (f.args.getD n .undefined) .all)
  let simple := sloppy
  let rest : List (PropKey × Slot) := [
    (.ofString "length", .data (.nat f.args.size) .hidden),
    (.symbol Sym.iterator, .data (.object Intrinsic.arrayValues) .hidden),
    (.ofString "callee",
      if simple then .data f.func .hidden
      else .accessor (.object Intrinsic.throwTypeError) (.object Intrinsic.throwTypeError) false false)]
  Heap.modifyObj r fun o => { o with props := .ofList (items.toList ++ rest) }
  return .object r

/-! ## Environments -/

/-- Enters a new environment. -/
def enterEnv (kind : EnvKind) (bindings : Array Binding) : M Unit := update fun m =>
  let env := m.envs.size
  { m with
    envs := m.envs.push ⟨m.frame.env, kind, bindings, Array.replicate bindings.size .hole⟩
    frame := { m.frame with env := env } }

def pushEnv (bindings : Array Binding) (isVarScope : Bool) : M Unit :=
  enterEnv (if isVarScope then .varScope else .declarative) bindings

def pushWith (r : Ref) : M Unit := enterEnv (.withObject r) #[]

def popEnv : M Unit := update fun m =>
  { m with frame := { m.frame with env := (m.envs.getD m.frame.env default).parent } }

def copyEnv : M Unit := update fun m =>
  let env := m.envs.size
  { m with
    envs := m.envs.push (m.envs.getD m.frame.env default)
    frame := { m.frame with env := env } }

/-! ## Iteration -/

def iterAt (f : Frame) (slot : Nat) : M (Option Iter) := look fun m =>
  match m.stack.getD (f.base + slot + 1) .hole with
  | .hole => none
  | next => some ⟨m.stack.getD (f.base + slot) .undefined, next⟩

@[inline]
def setLocal (i : Nat) (v : Value) : M Unit := update fun m =>
  { m with stack := m.stack.setIfInBounds (m.frame.base + i) v }

def keepIter (slot : Nat) (i : Iter) : M Unit := do
  setLocal slot i.iterator
  setLocal (slot + 1) i.next

/-- An iterator that has ended, or failed, is not to be closed. -/
def dropIter (slot : Nat) : M Unit := setLocal (slot + 1) .hole

/-- Runs a step of an iterator, which is done with if the step fails. -/
def advancing (slot : Nat) (x : M α) : M α := handle x fun e => do
  dropIter slot
  fail e

/-- The next item of an iterator that has not ended. -/
def nextItem (slot : Nat) : M (Option Value) := do
  match ← iterAt (← look (·.frame)) slot with
  | none => return none
  | some i =>
    match ← advancing slot (Iter.step i) with
    | none =>
      dropIter slot
      return none
    | some v => return some v

def restFrom (slot : Nat) : Nat → Array Value → M (Array Value)
  | 0, acc => return acc
  | n + 1, acc => do
    match ← nextItem slot with
    | none => return acc
    | some v => restFrom slot n (acc.push v)

def close (slot : Nat) : M Unit := do
  match ← iterAt (← look (·.frame)) slot with
  | none => pure ()
  | some i =>
    dropIter slot
    Iter.close i

/-- Asks an iterator to close; gives its answer, if it had to be asked. -/
def closeAsync (slot : Nat) : M (Option Value) := do
  match ← iterAt (← look (·.frame)) slot with
  | none => return none
  | some i =>
    dropIter slot
    match ← Object.getMethod i.iterator (.ofString "return") with
    | none => return none
    | some f => return some (← call f i.iterator #[])

def closeQuiet (slot : Nat) : M (Option Value) := do
  match ← catching (closeAsync slot) with
  | .ok v => return v
  | .error _ => return none

/-- Closes an iterator and throws what was caught. -/
def closeThrow (slot : Nat) (e : Value) : M Unit := do
  discard (catching (close slot))
  throwValue e

/-! ## The keys of an object -/

/-- Texts among the keys of an object and those it inherits from, each once. -/
def inheritedKeys : Nat → Ref → List PropKey → M (List PropKey)
  | 0, _, _ => return []
  | n + 1, r, seen => do
    let keys := (← Object.keys r).filter fun k => !k.isSymbol && !seen.contains k
    let shown ← keys.filterM fun k => do
      match ← Object.getOwn r k with
      | some s => return s.isEnumerable
      | none => return false
    match ← Object.getProto r with
    | none => return shown
    | some p => return shown ++ (← inheritedKeys n p (seen ++ keys))

def forInStart (slot : Nat) (v : Value) : M Unit := do
  match v with
  | .undefined | .null => setLocal slot .undefined
  | v =>
    let r ← toObject v
    let keys ← inheritedKeys 10000 r []
    setLocal slot (.object (← Heap.allocKind none (.forIn r keys)))

/-- The next key that is still there. -/
def nextKey (state object : Ref) : List PropKey → M (Option Value)
  | [] => return none
  | k :: rest => do
    if ← Object.has object k then
      Heap.setKind state (.forIn object rest)
      return some k.value
    else nextKey state object rest

def forInNext (slot : Nat) : M (Option Value) := do
  let f ← look (·.frame)
  match ← look fun m => m.stack.getD (f.base + slot) .undefined with
  | .object state =>
    match ← Heap.kindOf state with
    | .forIn object keys => nextKey state object keys
    | _ => return none
  | _ => return none

/-! ## Delegation -/

/-- Hands what a generator has been sent on to the iterator it delegates to; nothing if that has no
method for returning. -/
def delegate (slot : Nat) (received mode : Value) : M (Option Value) := do
  match ← iterAt (← look (·.frame)) slot with
  | none => return none
  | some i =>
    match mode with
    | .number x =>
      if x == 0 then return some (← call i.next i.iterator #[received])
      else if x == 1 then
        match ← Object.getMethod i.iterator (.ofString "throw") with
        | some f => return some (← call f i.iterator #[received])
        | none =>
          Iter.close i
          typeError "iterator does not have a throw method"
      else
        match ← Object.getMethod i.iterator (.ofString "return") with
        | some f => return some (← call f i.iterator #[received])
        | none => return none
    | _ => return none

end Operation

end Playpen.Engine
