import Playpen.Engine.Compile.Expr

/-!
# Compiling: functions and classes
-/

namespace Playpen.Engine

open Playpen.Script

namespace Compile

variable (c : Compilers)

/-! ## Functions -/

/-- Compiles a function with a state of its own, inside the scopes of the present one. -/
def asFunction (info : FuncInfo) (strict derived : Bool) (body : Compile α) : Compile (α × CompileState) := do
  let s ← get
  let start : CompileState := {
    instrs := #[], places := #[], place := info.bodyPlace, labels := #[0], scopes := s.scopes, locals := 0
    funcs := #[], control := [], pending := [], counter := s.counter, returnSlot := none, completion := none
    chains := [], strict := strict, async := info.async, generator := info.generator, derived := derived
    lateThis := derived || (info.arrow && s.lateThis)
    captured := info.innerNames, allCaptured := info.callsEval, origin := s.origin, module := s.module }
  let (a, t) := body start
  set { s with counter := t.counter }
  return (a, t)

/-- The code that a finished state amounts to. -/
def codeOf (name : String) (length : Nat) (kind : FuncKind) (info : FuncInfo) (s : CompileState) : Code := {
  name := name, length := length, kind := kind, async := info.async, generator := info.generator
  strict := s.strict, instrs := finished s, places := s.places, locals := s.locals, funcs := s.funcs
  origin := s.origin, start := info.start, stop := info.stop }

/-- Adds code to the functions of the present one. -/
def addFunc (code : Code) : Compile Nat := do
  let s ← get
  set { s with funcs := s.funcs.push code }
  return s.funcs.size

/-- The parameters before the first with a default. -/
def expectedArguments (ps : List Pattern) : Nat :=
  (ps.takeWhile fun
    | .withDefault _ _ => false
    | .rest _ => false
    | _ => true).length

def isSimple (ps : List Pattern) : Bool := ps.all fun
  | .ident _ => true
  | _ => false

/-- Takes the arguments into the parameters. -/
def parameters (ps : List Pattern) : Nat → Compile Unit
  | i =>
    match ps with
    | [] => pure ()
    | p :: rest => do
      match p with
      | .rest q =>
        emit (.restArgs i)
        c.target .init q
      | q =>
        emit (.getArg i)
        c.target .init q
      parameters rest (i + 1)

/-- The slot of the environment in which the last parameter of a name is kept. -/
def mappedSlots (ps : List Pattern) (vars : List Var) : Array (Option Nat) :=
  let names := ps.filterMap fun
    | .ident n => some n
    | _ => none
  let rec go : List String → List (Option Nat)
    | [] => []
    | n :: rest =>
      (if rest.contains n then none
        else match vars.find? (·.name == n) with
          | some ⟨_, .env i, _, _⟩ => some i
          | _ => none) :: go rest
  (go names).toArray

/-- Makes the functions that statements declare. -/
def hoist (fs : List Func) : Compile Unit :=
  fs.forM fun f => do
    match f.info.name with
    | some n =>
      let i ← c.func ⟨n, .normal, false⟩ f
      emit (.closure i)
      initVar n
    | none => pure ()

/-- The names of a function's scope. -/
def functionNames (use : FuncUse) (info : FuncInfo) (ps : List Pattern) (ss : List Stmt) (mapped : Bool) :
    List Declared :=
  let params := Names.distinct (Names.ofPatterns ps)
  let functions := (Names.functions ss).filterMap (·.info.name)
  let lexical := Names.lexical ss
  let lexicalNames := lexical.map (·.1)
  let vars := Names.distinct (ss.flatMap (Names.vars Names.depth) ++ functions)
  let simple := isSimple ps
  let declared := params ++ vars ++ lexicalNames
  let arguments := if (info.usesArguments || info.callsEval) && !info.arrow &&
    !params.contains "arguments" && !functions.contains "arguments" && !lexicalNames.contains "arguments" then
      ["arguments"] else []
  let own := if use.named && !declared.contains use.name && !arguments.contains use.name then [use.name] else []
  own.map (⟨·, .silent, false, false⟩) ++
  (if use.kind == .derivedConstructor then [⟨"%this", .mutable, true, true⟩] else []) ++
  arguments.map (⟨·, .mutable, false, false⟩) ++
  params.map (fun n => ⟨n, .mutable, !simple, mapped⟩) ++
  ((vars.filter fun n => !params.contains n && !arguments.contains n && !lexicalNames.contains n).map
    (⟨·, .mutable, false, false⟩)) ++
  ((Names.distinct lexicalNames).filter (fun n => !params.contains n)).map fun n =>
    ⟨n, if lexical.any (fun l => l.1 == n && l.2) then .constant else .mutable, true, false⟩

/-- What happens when a function is entered, up to its first statement. -/
def enter (use : FuncUse) (info : FuncInfo) (ps : List Pattern) (ss : List Stmt) : Compile Unit := do
  let strict := (← get).strict
  let simple := isSimple ps
  let mapped := !strict && simple && (info.usesArguments || info.callsEval) && !info.arrow
  let names := functionNames use info ps ss mapped
  let entered := !names.isEmpty || info.callsEval
  if entered then
    discard (enterScope names (info.callsEval && !strict) (info.callsEval && !strict) true)
  let vars := match (← get).scopes with
    | s :: _ => if entered then s.vars else []
    | [] => []
  -- variables begin as undefined
  let params := Names.ofPatterns ps
  vars.reverse.forM fun v => do
    match v.slot with
    | .env i =>
      if !v.checked && !params.contains v.name then
        push .undefined
        emit (.setEnv 0 i)
    | .local _ => pure ()
    | .import _ _ => pure ()
  if names.any (fun d => d.name == "arguments" && !params.contains "arguments") &&
      (info.usesArguments || info.callsEval) && !info.arrow then
    emit (.makeArguments (if mapped then mappedSlots ps vars else #[]))
    initVar "arguments"
  if use.named && names.any (fun d => d.name == use.name && d.mutability == .silent) then
    emit .callee
    initVar use.name
  parameters c ps 0
  hoist c (Names.functions ss)

/-- The code of a function. -/
def func (use : FuncUse) (f : Func) : Compile Nat := do
  match f with
  | .mk info ps _ ss value =>
    let derived := use.kind == .derivedConstructor
    let (_, s) ← asFunction info info.strict derived do
      enter c use info ps ss
      if use.kind == .classConstructor then
        emit .this
        emit .initFields
        emit .pop
      if info.generator then
        emit .generatorStart
        -- what the generator has been asked first tells it nothing
        emit .pop
        emit .pop
      match value with
      | some e =>
        c.expr none e
        emit .return
      | none =>
        ss.forM c.stmt
        push .undefined
        emit (.setLocal (← returnSlot))
        finishReturn
    addFunc (codeOf use.name (expectedArguments ps) use.kind info s)

/-! ## Classes -/

/-- Private names of a class, each once. -/
def privateNames (ms : List Member) : List String :=
  Names.distinct (ms.filterMap fun
    | .method _ _ (.hidden n) _ _ => some n
    | .field _ (.hidden n) _ _ _ => some n
    | _ => none)

/-- The names under which a class's scope keeps computed keys and private methods. -/
def hiddenName (kind : String) (i : Nat) : String := "%" ++ kind ++ toString i

def isConstructorMember : Member → Bool
  | .method false .method (.name "constructor") _ _ => true
  | .method false .method (.text (.plain "constructor")) _ _ => true
  | _ => false

def isInstanceElement : Member → Bool
  | .field false _ _ _ _ => true
  | .method false _ (.hidden _) _ _ => true
  | _ => false

def numbered (ms : List Member) : List (Nat × Member) := (List.range ms.length).zip ms

/-- The code of a constructor that a class does not write. -/
def defaultConstructor (name : String) (info : FuncInfo) (hasParent : Bool) : Compile Nat := do
  let kind : FuncKind := if hasParent then .derivedConstructor else .classConstructor
  let info : FuncInfo := { info with async := false, generator := false, arrow := false, callsEval := false }
  let (_, s) ← asFunction info true false do
    if hasParent then
      emit (.restArgs 0)
      emit .superCall
      emit .initFields
    else
      emit .this
      emit .initFields
    emit .return
  addFunc (codeOf name 0 kind info s)

/-- Gives the object under `this` a field. -/
def fieldOn (i : Nat) (k : Key) (value : Option Expr) : Compile Unit := do
  let named : Option String := match k with
    | .hidden n => some n
    | k => (constKey k).map keyName
  let v (name : Option String) : Compile Unit := match value with
    | some e => c.expr name e
    | none => push .undefined
  emit .this
  match k with
  | .hidden n =>
    getVar n
    v named
    emit .definePrivate
  | k =>
    match constKey k with
    | some key =>
      v named
      emit (.defineField key)
    | none =>
      getVar (hiddenName "key" i)
      let anonymous := value.any (isAnonymous 100)
      v (if anonymous then some "" else none)
      if anonymous then emit .nameFunction
      emit .defineIndex
  emit .pop

/-- The function that gives new objects their private methods and fields. -/
def fieldsFunction (info : FuncInfo) (ms : List (Nat × Member)) : Compile Nat := do
  let inner := ms.flatMap fun (_, m) =>
    match m with
    | .field _ _ _ i _ => i.innerNames
    | _ => []
  let callsEval := ms.any fun (_, m) =>
    match m with
    | .field _ _ _ i _ => i.callsEval
    | _ => false
  let info : FuncInfo := { info with
    async := false, generator := false, arrow := false, innerNames := inner, callsEval := callsEval }
  let (_, s) ← asFunction info true false do
    ms.forM fun (i, m) => do
      match m with
      | .method _ kind (.hidden n) _ _ =>
        emit .this
        getVar n
        getVar (hiddenName "method" i)
        emit (.definePrivateMember (memberKind kind))
        emit .pop
      | _ => pure ()
    ms.forM fun (i, m) => do
      match m with
      | .field _ k v fieldInfo _ => atPlace fieldInfo.bodyPlace (fieldOn c i k v)
      | _ => pure ()
    push .undefined
    emit .return
  addFunc (codeOf "" 0 .method info s)

/-- A function with one static element, which is called with the class as `this`. -/
def staticFunction (info : FuncInfo) (body : Compile Unit) : Compile Nat := do
  let info := { info with async := false, generator := false, arrow := false }
  let (_, s) ← asFunction info true false do
    body
    push .undefined
    emit .return
  addFunc (codeOf "" 0 .method info s)

/-- A method, getter or setter; the class and its prototype are on the stack, the one it belongs to
on top. -/
def classMethod (i : Nat) (kind : MemberKind) (k : Key) (f : Func) : Compile Unit := do
  match k with
  | .hidden n =>
    let code ← c.func ⟨n, .method, false⟩ f
    emit (.closure code)
    emit (.setHome 1)
    initVar (hiddenName "method" i)
  | k =>
    match constKey k with
    | some key =>
      let code ← c.func ⟨keyName key, .method, false⟩ f
      emit (.closure code)
      emit (.setHome 1)
      emit (.defineMember kind key false)
    | none =>
      pushKey c k
      let code ← c.func ⟨"", .method, false⟩ f
      emit (.closure code)
      emit (.setHome 2)
      emit (.nameMember kind)
      emit (.defineMemberIndex kind false)

/-- A class, whose function is left on the stack. -/
def classDef (name : String) (k : Script.Class) : Compile Unit := do
  match k with
  | .mk info parent members _ =>
    let strict := (← get).strict
    modify fun s => { s with strict := true }
    let ms := numbered members
    let hidden := ms.flatMap fun (i, m) =>
      match m with
      | .method _ _ (.hidden _) _ _ => [hiddenName "method" i]
      | .field _ (.computed _) _ _ _ => [hiddenName "key" i]
      | _ => []
    let own : List Declared := info.name.toList.map fun n => ⟨n, .constant, true, true⟩
    let names := own ++ ((privateNames members ++ hidden).map fun n => ⟨n, .mutable, false, true⟩)
    inScope names do
      match parent with
      | some e => c.expr none e
      | none => pure ()
      (privateNames members).forM fun n => do
        emit (.newPrivateName n)
        initVar n
      let constructor ← match members.find? isConstructorMember with
        | some (.method _ _ _ f _) =>
          match f with
          | .mk fi ps ds ss v =>
            let fi := { fi with start := info.start, stop := info.stop }
            c.func ⟨name, if parent.isSome then .derivedConstructor else .classConstructor, false⟩ (.mk fi ps ds ss v)
        | _ => defaultConstructor name info parent.isSome
      emit (.makeClass constructor parent.isSome)
      -- methods and computed keys, in order
      ms.forM fun (i, m) => do
        match m with
        | .method isStatic kind key f _ =>
          if isConstructorMember m then pure ()
          else if isStatic then
            emit .swap
            classMethod c i (memberKind kind) key f
            emit .swap
          else classMethod c i (memberKind kind) key f
        | .field _ (.computed e) _ _ _ =>
          c.expr none e
          emit .toKey
          initVar (hiddenName "key" i)
        | _ => pure ()
      let instance_ := ms.filter fun m => isInstanceElement m.2
      if !instance_.isEmpty then
        let code ← fieldsFunction c info instance_
        emit (.closure code)
        emit (.setHome 1)
        emit .setFields
      emit .pop
      match info.name with
      | some n =>
        emit .dup
        initVar n
      | none => pure ()
      -- private methods of the class itself come before its fields
      ms.forM fun (i, m) => do
        match m with
        | .method true kind (.hidden n) _ _ =>
          getVar n
          getVar (hiddenName "method" i)
          emit (.definePrivateMember (memberKind kind))
        | _ => pure ()
      ms.forM fun (i, m) => do
        match m with
        | .field true key value fieldInfo _ =>
          let code ← staticFunction fieldInfo (fieldOn c i key value)
          emit (.closure code)
          emit (.setHome 1)
          emit .callStatic
        | .block ss blockInfo =>
          let code ← staticFunction blockInfo do
            enter c ⟨"", .method, false⟩ blockInfo [] ss
            ss.forM c.stmt
          emit (.closure code)
          emit (.setHome 1)
          emit .callStatic
        | _ => pure ()
    modify fun s => { s with strict := strict }

end Compile

end Playpen.Engine
