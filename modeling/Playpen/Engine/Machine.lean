import Playpen.Config
import Playpen.Engine.Code
import Playpen.Log.Journal
import Playpen.Table

/-!
# The machine

Everything that running a script changes: objects, environments, suspended functions, pending jobs,
modules, and the log.  The stack belongs to the function that runs; those that wait for it keep the
part below.
-/

namespace Playpen.Engine

open Playpen.Text (Wide)

/-! ## Functions -/

/-- A function that the engine provides. -/
inductive Native where
  /-- One of the table of built-in functions. -/
  | listed (i : Nat)
  /-- One that is made while scripts run; what it needs is among the captures. -/
  | promiseResolve
  | promiseReject
  | capabilityExecutor
  | proxyRevoke
  | combinatorElement (which : Nat)
  | thenFinally
  | catchFinally
  | constant
  | thrower
  | asyncFromSyncUnwrap
  | console (kind : Log.Kind)
  deriving DecidableEq, Inhabited

/-- A function of a script. -/
structure Closure where
  code : Code
  env : Nat
  /-- What an arrow function sees as `this`, as the function around it, and as `new.target`. -/
  this : Value
  owner : Value
  newTarget : Value
  /-- The object through which methods find `super`. -/
  home : Value
  /-- The function that gives new objects of a class their fields. -/
  fields : Value
  deriving Inhabited

/-! ## Objects -/

/-- An entry list that can be gone through while it changes: removed entries leave a gap. -/
structure Entries where
  items : Array (Option (Value × Value))
  index : Std.HashMap MapKey Nat
  deriving Inhabited

namespace Entries

def empty : Entries := ⟨#[], {}⟩

def size (e : Entries) : Nat := e.index.size

def get? (e : Entries) (k : Value) : Option Value := do
  let i ← e.index[MapKey.mk k]?
  let item ← e.items[i]?
  (← item).2

def contains (e : Entries) (k : Value) : Bool := e.index.contains ⟨k⟩

def insert (e : Entries) (k v : Value) : Entries :=
  match e with
  | ⟨items, index⟩ =>
    match index[MapKey.mk k]? with
    | some i => ⟨items.setIfInBounds i (some (k, v)), index⟩
    | none =>
      let n := items.size
      ⟨items.push (some (k, v)), index.insert ⟨k⟩ n⟩

def erase (e : Entries) (k : Value) : Entries :=
  match e with
  | ⟨items, index⟩ =>
    match index[MapKey.mk k]? with
    | some i => ⟨items.setIfInBounds i none, index.erase ⟨k⟩⟩
    | none => ⟨items, index⟩

def clear (e : Entries) : Entries := ⟨e.items.map fun _ => none, {}⟩

end Entries

/-- What an iterator gives of each entry. -/
inductive IterationKind where
  | keys | values | entries
  deriving DecidableEq, Inhabited

/-- What waits for a promise. -/
inductive ReactionHandler where
  | identity
  | thrower
  | script (f : Value)
  /-- Resumes a suspended function. -/
  | resume (task : Ref) (throws : Bool)
  /-- Goes on with an asynchronous generator that returns. -/
  | generatorReturn (generator : Ref) (throws : Bool)
  /-- A module has been evaluated, or has failed. -/
  | module (m : Nat) (throws : Bool)
  /-- A module asked for by `import()` has been read, with all that it imports. -/
  | importRead (m : Nat) (promise : Ref)
  /-- A module asked for by `import()` has been evaluated, or has failed. -/
  | imported (m : Nat) (promise : Ref) (throws : Bool)
  deriving Inhabited

/-- A promise with the functions that settle it. -/
structure Capability where
  promise : Value
  resolve : Value
  reject : Value
  deriving Inhabited

structure Reaction where
  /-- The promise that the reaction's outcome settles. -/
  capability : Option Capability
  handler : ReactionHandler
  deriving Inhabited

inductive PromiseState where
  | pending (fulfil reject : Array Reaction)
  | fulfilled (v : Value)
  | rejected (v : Value)
  deriving Inhabited

/-- A piece of a regular expression. -/
inductive RegexNode where
  | empty
  | char (c : Nat)
  /-- Any character but a line end; any at all where `dotAll` is set. -/
  | any
  /-- Ranges and, for a negated class, their complement. -/
  | set (negated : Bool) (ranges : Array (Nat × Nat))
  | seq (a b : RegexNode)
  | alt (a b : RegexNode)
  | group (index : Nat) (r : RegexNode)
  | backreference (index : Nat)
  | namedBackreference (name : String)
  | lineStart
  | lineEnd
  | wordBoundary (negated : Bool)
  | look (ahead negated : Bool) (r : RegexNode)
  /-- Repetition; the groups inside are numbered from `first` up to but not including `last`. -/
  | repeat (least : Nat) (most : Option Nat) (greedy : Bool) (r : RegexNode) (first last : Nat)
  deriving Inhabited

/-- A compiled regular expression. -/
structure Regex where
  source : String
  flags : String
  node : RegexNode
  groups : Nat
  /-- Group names with their numbers. -/
  names : List (String × Nat)
  deriving Inhabited

/-- The element type of a typed array. -/
inductive ElementType where
  | int8 | uint8 | uint8Clamped | int16 | uint16 | int32 | uint32 | bigInt64 | bigUint64 | float32 | float64
  deriving DecidableEq, Inhabited

/-- A handler of exceptions. -/
structure Handler where
  target : Nat
  height : Nat
  env : Nat
  deriving Inhabited

/-- What a function's end means, apart from its result. -/
inductive Task where
  | none
  /-- Settles a promise. -/
  | promise (c : Capability)
  | generator (g : Ref)
  | asyncGenerator (g : Ref)
  deriving Inhabited

/-- A running function. -/
structure Frame where
  code : Code
  pc : Nat
  /-- Where its locals begin on the stack. -/
  base : Nat
  /-- How high the stack is once it has ended. -/
  floor : Nat
  env : Nat
  this : Value
  func : Value
  owner : Value
  newTarget : Value
  args : Array Value
  handlers : List Handler
  loops : Nat
  /-- Whether it was called by `new`. -/
  construct : Bool
  /-- Whether it was called by a built-in function, which gets its result; then that function's name. -/
  boundary : Option String
  task : Task
  deriving Inhabited

/-- A suspended function with its part of the stack. -/
structure Suspended where
  frame : Frame
  stack : Array Value
  deriving Inhabited

inductive GeneratorState where
  | start (s : Suspended)
  | suspended (s : Suspended)
  | running
  | done
  deriving Inhabited

/-- How a suspended function goes on. -/
inductive Resumption where
  | next | throw | return
  deriving DecidableEq, Inhabited

/-- A request to an asynchronous generator. -/
structure AsyncRequest where
  how : Resumption
  value : Value
  capability : Capability
  deriving Inhabited

inductive Kind where
  | ordinary
  /-- Elements up to the size of `items` are there, those beyond are properties. -/
  | array (items : Array Value) (length : Nat) (lengthWritable : Bool)
  | closure (c : Closure)
  | native (fn : Native) (isConstructor : Bool) (captures : Array Value)
  | bound (target this : Value) (args : Array Value)
  | proxy (target handler : Value) (callable isConstructor : Bool)
  | error
  | wrapper (v : Value)
  | date (t : Float)
  | regex (r : Regex)
  | map (e : Entries)
  | set (e : Entries)
  | weakMap (e : Entries)
  | weakSet (e : Entries)
  | weakRef (v : Value)
  | finalizationRegistry
  | promise (state : PromiseState) (handled : Bool)
  | generator (state : GeneratorState)
  | asyncGenerator (state : GeneratorState) (requests : List AsyncRequest)
  /-- A function that awaits. -/
  | task (s : Suspended)
  | arguments (mapped : Array (Option Nat)) (env : Nat)
  | namespace (module : Nat)
  | buffer (bytes : ByteArray)
  | typedArray (type : ElementType) (buffer : Ref) (offset length : Nat)
  | dataView (buffer : Ref) (offset length : Nat)
  | arrayIterator (target : Value) (index : Nat) (kind : IterationKind)
  | textIterator (w : Wide) (index : Nat)
  | mapIterator (target : Value) (index : Nat) (kind : IterationKind)
  | setIterator (target : Value) (index : Nat) (kind : IterationKind)
  | regexIterator (regex : Value) (text : Wide) (global unicode done : Bool)
  | asyncFromSync (iterator next : Value)
  /-- The keys of a loop over properties that are still to come. -/
  | forIn (object : Ref) (keys : List PropKey)
  deriving Inhabited

structure Obj where
  proto : Option Ref
  extensible : Bool
  props : Props
  privates : Props
  kind : Kind
  deriving Inhabited

/-! ## Environments and modules -/

inductive EnvKind where
  | declarative
  /-- Takes the variables that `eval` declares. -/
  | varScope
  | withObject (o : Ref)
  | global
  deriving Inhabited

structure Env where
  parent : Nat
  kind : EnvKind
  bindings : Array Binding
  slots : Array Value
  deriving Inhabited

/-- Where an import leads. -/
inductive Import where
  | slot (env i : Nat)
  | namespace (module : Nat)
  deriving Inhabited

inductive ModuleStatus where
  | unlinked | linking | linked | evaluating | evaluatingAsync | evaluated
  deriving DecidableEq, Inhabited

/-- Where an exported name comes from. -/
inductive ExportSource where
  /-- A name of the module. -/
  | binding (name : String)
  /-- A name of the module that a specifier stands for. -/
  | indirect (specifier : Wide) (name : Wide)
  /-- All of the module that a specifier stands for. -/
  | all (specifier : Wide)
  deriving Inhabited

/-- What an imported name stands for in another module; nothing for the whole module. -/
structure ImportEntry where
  specifier : Wide
  name : Option Wide
  binding : String
  deriving Inhabited

structure Module where
  url : String
  code : Code
  bindings : Array Binding
  /-- Slots of variables that begin as undefined. -/
  vars : List Nat
  /-- Slots with the functions they begin with. -/
  hoisted : List (Nat × Nat)
  requests : List Wide
  imports : Array ImportEntry
  exports : List (Wide × ExportSource)
  stars : List Wide
  hasAwait : Bool
  env : Nat
  status : ModuleStatus
  error : Option Value
  /-- The modules that the specifiers stand for. -/
  loaded : List (Wide × Nat)
  links : Array Import
  namespaceObject : Option Ref
  metaObject : Option Ref
  dfsIndex : Nat
  dfsAncestor : Nat
  cycleRoot : Nat
  pendingAsync : Nat
  asyncParents : List Nat
  asyncOrder : Option Nat
  capability : Option Capability
  deriving Inhabited

/-- Modules that are still to be read: specifiers with the modules that import them. -/
structure Reading where
  todo : List (Nat × Wide)
  visited : List Nat
  deriving Inhabited

/-- An `import()` whose module is being read. -/
structure DynamicImport where
  promise : Ref
  referrer : Option String
  specifier : Wide
  /-- The module and what it still needs, once it is there. -/
  progress : Option (Nat × Reading)
  deriving Inhabited

inductive Job where
  | reaction (r : Reaction) (argument : Value)
  | thenable (promise : Ref) (thenable then_ : Value)
  deriving Inhabited

/-! ## The machine -/

structure Machine where
  heap : Array Obj
  stack : Array Value
  frame : Frame
  /-- The functions that wait, innermost first. -/
  frames : List Frame
  depth : Nat
  envs : Array Env
  /-- Descriptions of symbols. -/
  symbols : Array (Option Wide)
  registry : Table Nat
  templates : List (Nat × Ref)
  jobs : Array Job
  imports : List DynamicImport
  modules : Array Module
  /-- Sources of modules by URL; the first that is given stays. -/
  sources : Table String
  /-- Modules that have been read, by URL. -/
  instances : Table Nat
  /-- The built-in function that runs. -/
  native : String
  /-- Arrays that are being made into texts. -/
  joining : List Ref
  limits : Limits
  asyncCounter : Nat
  /-- How many numbers compiled code has taken for its parts. -/
  codeCounter : Nat
  /-- The state of the generator of random numbers. -/
  random : UInt64
  log : Log.Journal
  deriving Inhabited

/-- One machine's log goes on where the other's stops. -/
def Machine.Extends (m m' : Machine) : Prop := m.log.Extends m'.log

namespace Machine

theorem Extends.refl (m : Machine) : m.Extends m := Log.Journal.Extends.refl m.log

theorem Extends.trans {a b c : Machine} (h : a.Extends b) (k : b.Extends c) : a.Extends c :=
  Log.Journal.Extends.trans h k

theorem Extends.of_log_eq {m m' : Machine} (h : m'.log = m.log) : m.Extends m' := by
  show m.log.Extends m'.log
  exact h ▸ Log.Journal.Extends.refl m.log

/-- The machine in which a call is completed that began when there were `n` outermost calls. -/
def closeCall (m : Machine) (n : Nat) (k : Log.Kind) (s : String) : Machine :=
  { m with log := m.log.close n k s }

theorem Extends.closeCall {m m' : Machine} (h : m.Extends m') (k : Log.Kind) (s : String) :
    m.Extends (m'.closeCall m.log.calls.size k s) :=
  Log.Journal.Extends.close h k s

end Machine

/-! ## Computations -/

/-- How a computation ends. -/
inductive Ending (α : Type) where
  | ok (a : α) (m : Machine)
  | error (e : Thrown) (m : Machine)

def Ending.machine : Ending α → Machine
  | ok _ m => m
  | error _ m => m

/-- An ending that a computation may have: nothing that was logged before is lost. -/
abbrev Outcome (m : Machine) (α : Type) := { r : Ending α // m.Extends r.machine }

/-- What built-in functions need of the engine: calling functions of all kinds. -/
structure Host where
  call : (f this : Value) → (args : Array Value) → (m : Machine) → Outcome m Value
  construct : (f : Value) → (args : Array Value) → (newTarget : Value) → (m : Machine) → Outcome m Value
  /-- Goes on with a suspended function until it is suspended again or ends. -/
  resume : (s : Suspended) → (how : Resumption) → (v : Value) → (m : Machine) → Outcome m Value

/-- A computation of the engine.  Whatever it does, the log only grows. -/
def M (α : Type) := Host → (m : Machine) → Outcome m α

namespace M

@[always_inline, inline]
protected def pure (a : α) : M α := fun _ m => ⟨.ok a m, Machine.Extends.refl m⟩

@[always_inline, inline]
protected def bind (x : M α) (f : α → M β) : M β := fun h m =>
  match x h m with
  | ⟨.ok a m', p⟩ =>
    match f a h m' with
    | ⟨r, q⟩ => ⟨r, p.trans q⟩
  | ⟨.error e m', p⟩ => ⟨.error e m', p⟩

@[always_inline]
instance : Monad M where
  pure := M.pure
  bind := M.bind

instance : Inhabited (M α) := ⟨fun _ m => ⟨.error default m, Machine.Extends.refl m⟩⟩

@[always_inline, inline]
def fail (e : Thrown) : M α := fun _ m => ⟨.error e m, Machine.Extends.refl m⟩

@[always_inline, inline]
def get : M Machine := fun _ m => ⟨.ok m m, Machine.Extends.refl m⟩

/-- What a machine holds, without the machine. -/
@[always_inline, inline]
def look (f : Machine → α) : M α := fun _ m => ⟨.ok (f m) m, Machine.Extends.refl m⟩

/-- Changes the machine but not its log. -/
@[always_inline, inline]
def update (f : Machine → Machine) (h : ∀ m, (f m).log = m.log := by intro m; rfl) : M Unit :=
  fun _ m => ⟨.ok () (f m), Machine.Extends.of_log_eq (h m)⟩

/-- Changes the machine but not its log, and gives a result. -/
@[always_inline, inline]
def updateGet (f : Machine → α × Machine) (h : ∀ m, (f m).2.log = m.log := by intro m; rfl) : M α :=
  fun _ m => ⟨.ok (f m).1 (f m).2, Machine.Extends.of_log_eq (h m)⟩

/-- Makes the entry of a console call once its text is there; the calls made meanwhile belong to it. -/
def logCall (k : Log.Kind) (content : M String) : M Unit := fun h m =>
  let n := m.log.calls.size
  match content h m with
  | ⟨.ok s m', p⟩ => ⟨.ok () (m'.closeCall n k s), p.closeCall k s⟩
  | ⟨.error e m', p⟩ => ⟨.error e m', p⟩

@[always_inline, inline]
def handle (x : M α) (f : Thrown → M α) : M α := fun h m =>
  match x h m with
  | ⟨.ok a m', p⟩ => ⟨.ok a m', p⟩
  | ⟨.error e m', p⟩ =>
    match f e h m' with
    | ⟨r, q⟩ => ⟨r, p.trans q⟩

/-- The ending as a value. -/
@[always_inline, inline]
def attempt (x : M α) : M (Except Thrown α) := fun h m =>
  match x h m with
  | ⟨.ok a m', p⟩ => ⟨.ok (.ok a) m', p⟩
  | ⟨.error e m', p⟩ => ⟨.ok (.error e) m', p⟩

@[always_inline, inline]
def call (f this : Value) (args : Array Value) : M Value := fun h m => h.call f this args m

@[always_inline, inline]
def construct (f : Value) (args : Array Value) (newTarget : Value) : M Value :=
  fun h m => h.construct f args newTarget m

@[always_inline, inline]
def resume (s : Suspended) (how : Resumption) (v : Value) : M Value := fun h m => h.resume s how v m

def raise (k : ErrorKind) (message : String) : M α := fail (.raised k message none)

def typeError (message : String) : M α := raise .type message

def rangeError (message : String) : M α := raise .range message

def limitError (message : String) : M α := fail (.limit message none)

def throwValue (v : Value) : M α := fail (.value v)

end M

/-! ## The heap -/

namespace Heap

open M

def getObj (r : Ref) : M Obj := look fun m => m.heap.getD r default

def kindOf (r : Ref) : M Kind := look fun m => (m.heap.getD r default).kind

@[inline]
def modifyObj (r : Ref) (f : Obj → Obj) : M Unit := update fun m => { m with heap := m.heap.modify r f }

def setKind (r : Ref) (k : Kind) : M Unit := modifyObj r fun o => { o with kind := k }

def alloc (o : Obj) : M Ref := updateGet fun m => (m.heap.size, { m with heap := m.heap.push o })

/-- A new object without properties. -/
def allocKind (proto : Option Ref) (kind : Kind) : M Ref := alloc ⟨proto, true, .empty, .empty, kind⟩

def setSlot (r : Ref) (k : PropKey) (s : Slot) : M Unit := modifyObj r fun o => { o with props := o.props.set k s }

/-- Sets a property as assignment makes it. -/
def setData (r : Ref) (k : PropKey) (v : Value) : M Unit := setSlot r k (.data v .all)

end Heap

/-! ## The objects every machine begins with -/

namespace Intrinsic

def objectPrototype : Ref := 0
def functionPrototype : Ref := 1
def global : Ref := 2
def arrayPrototype : Ref := 3
def stringPrototype : Ref := 4
def numberPrototype : Ref := 5
def booleanPrototype : Ref := 6
def symbolPrototype : Ref := 7
def bigintPrototype : Ref := 8
def errorPrototype : Ref := 9
def typeErrorPrototype : Ref := 10
def rangeErrorPrototype : Ref := 11
def referenceErrorPrototype : Ref := 12
def syntaxErrorPrototype : Ref := 13
def evalErrorPrototype : Ref := 14
def uriErrorPrototype : Ref := 15
def aggregateErrorPrototype : Ref := 16
def datePrototype : Ref := 17
def regexPrototype : Ref := 18
def mapPrototype : Ref := 19
def setPrototype : Ref := 20
def weakMapPrototype : Ref := 21
def weakSetPrototype : Ref := 22
def weakRefPrototype : Ref := 23
def promisePrototype : Ref := 24
def iteratorPrototype : Ref := 25
def asyncIteratorPrototype : Ref := 26
def arrayIteratorPrototype : Ref := 27
def textIteratorPrototype : Ref := 28
def mapIteratorPrototype : Ref := 29
def setIteratorPrototype : Ref := 30
def regexIteratorPrototype : Ref := 31
def generatorFunctionPrototype : Ref := 32
def generatorPrototype : Ref := 33
def asyncFunctionPrototype : Ref := 34
def asyncGeneratorFunctionPrototype : Ref := 35
def asyncGeneratorPrototype : Ref := 36
def asyncFromSyncPrototype : Ref := 37
def bufferPrototype : Ref := 38
def typedArrayPrototype : Ref := 39
def dataViewPrototype : Ref := 40
def finalizationPrototype : Ref := 41
def object : Ref := 42
def function : Ref := 43
def array : Ref := 44
def string : Ref := 45
def number : Ref := 46
def boolean : Ref := 47
def symbol : Ref := 48
def bigint : Ref := 49
def error : Ref := 50
def typeError : Ref := 51
def rangeError : Ref := 52
def referenceError : Ref := 53
def syntaxError : Ref := 54
def evalError : Ref := 55
def uriError : Ref := 56
def aggregateError : Ref := 57
def date : Ref := 58
def regex : Ref := 59
def map : Ref := 60
def set : Ref := 61
def weakMap : Ref := 62
def weakSet : Ref := 63
def weakRef : Ref := 64
def promise : Ref := 65
def proxy : Ref := 66
def generatorFunction : Ref := 67
def asyncFunction : Ref := 68
def asyncGeneratorFunction : Ref := 69
def buffer : Ref := 70
def typedArray : Ref := 71
def dataView : Ref := 72
def finalizationRegistry : Ref := 73
/-- Constructors of typed arrays, and behind them their prototypes. -/
def typedArrays : Ref := 74
def math : Ref := 96
def json : Ref := 97
def reflect : Ref := 98
def throwTypeError : Ref := 99
def arrayValues : Ref := 100
def iterator : Ref := 101
def eval : Ref := 102
def arrayIteratorNext : Ref := 103
def jsonStringify : Ref := 104
/-- The first object that has no fixed place. -/
def count : Nat := 105

/-- The prototype of errors of a kind. -/
def errorPrototypeOf : ErrorKind → Ref
  | .error => errorPrototype
  | .type => typeErrorPrototype
  | .range => rangeErrorPrototype
  | .reference => referenceErrorPrototype
  | .syntaxError => syntaxErrorPrototype
  | .eval => evalErrorPrototype
  | .uri => uriErrorPrototype
  | .aggregate => aggregateErrorPrototype

end Intrinsic

end Playpen.Engine
