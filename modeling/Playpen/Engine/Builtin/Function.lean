import Playpen.Engine.Builtin.Basic
import Playpen.Engine.Closure
import Playpen.Engine.Source

/-!
# Built-in functions: functions
-/

namespace Playpen.Engine

open M
open Playpen.Text (Wide)

namespace Builtin.Functions

/-- Code for a function made of texts. -/
def compile (async generator : Bool) (params body : String) : M Code := do
  match Source.functionOf async generator params body with
  | .error text => raise .syntaxError text
  | .ok (f, origin) =>
    updateGet fun m =>
      let (code, counter) := Compile.functionCode origin m.codeCounter "anonymous" f
      (code, { m with codeCounter := counter })

/-- Makes a function of texts: those of its parameters, and last that of its body. -/
def make (async generator : Bool) (texts : Array String) : M Ref := do
  let params := ",".intercalate (texts.extract 0 (texts.size - 1)).toList
  let code ← compile async generator params (texts.back?.getD "")
  Closure.alloc (.ofCode code 0)

def construct (async generator : Bool) : Behaviour := fun i => do
  let texts ← i.args.mapM toStr
  let f ← make async generator texts
  let standard := Closure.protoOf { (default : Code) with async := async, generator := generator }
  let p ← i.proto standard
  Heap.modifyObj f fun o => { o with proto := some p }
  return .object f

def apply : Behaviour := fun i => do
  if !(← Object.isCallable i.this) then typeError s!"{← typeOf i.this} is not a function"
  match i.arg 1 with
  | .undefined | .null => call i.this (i.arg 0) #[]
  | list => call i.this (i.arg 0) (← Object.listOf list)

def callMethod : Behaviour := fun i => do
  if !(← Object.isCallable i.this) then typeError s!"{← typeOf i.this} is not a function"
  call i.this (i.arg 0) (i.rest 1)

def bind : Behaviour := fun i => do
  match i.this with
  | .object target =>
    if !(← Object.isCallable i.this) then typeError "cannot bind \x60this\x60 without a \x60[[Call]]\x60 internal method"
    let bound := i.rest 1
    let p ← Object.getProto target
    let length ← if ← Object.hasOwn target Object.lengthKey then do
        match ← Object.get target Object.lengthKey with
        | .number x =>
          if x.isInf then pure (if x > 0 then x else 0)
          else
            let n := (if x.isNaN then 0 else Num.trunc x) - bound.size.toFloat
            pure (if n > 0 then n else 0)
        | _ => pure 0
      else pure 0
    let name ← Object.getNamed target "name"
    let f ← Heap.allocKind p (.bound i.this (i.arg 0) bound)
    Heap.setSlot f Object.lengthKey (.data (.number length) .configurableOnly)
    let text := match name with
      | .text w => w
      | _ => .plain ""
    Heap.setSlot f (.ofString "name") (.data (.text (.plain "bound " ++ text)) .configurableOnly)
    return .object f
  | _ => typeError "cannot bind \x60this\x60 without a \x60[[Call]]\x60 internal method"

def nativeText (name : String) : Value := .str s!"function {name}() \x7b [native code] \x7d"

def toString : Behaviour := fun i => do
  match i.this with
  | .object r =>
    match ← Heap.kindOf r with
    | .closure c =>
      match c.code.text? with
      | some text => return .str text
      | none => return nativeText c.code.name
    | .native _ _ _ =>
      match ← Object.getNamed r "name" with
      | .text w => return nativeText w.display
      | _ => return nativeText ""
    | .bound _ _ _ => return nativeText ""
    | .proxy _ _ true _ => return nativeText ""
    | _ => typeError "Function.prototype.toString requires that 'this' be a Function"
  | _ => typeError "Function.prototype.toString requires that 'this' be a Function"

def build : Build Unit := do
  let c := Intrinsic.function
  let p := Intrinsic.functionPrototype
  Build.functionAt p "" 0 fun _ => return .undefined
  Build.setProto p (some Intrinsic.objectPrototype)
  Build.constructor c p "Function" 1 (construct false false)
  Build.method p "apply" 2 apply
  Build.method p "bind" 1 bind
  Build.method p "call" 1 callMethod
  Build.method p "toString" 0 toString
  let h ← Build.function "[Symbol.hasInstance]" 1 fun i => return .bool (← hasInstance i.this (i.arg 0))
  Build.define p (.symbol Sym.hasInstance) (.data (.object h) .none)
  Build.functionAt Intrinsic.throwTypeError "" 0 fun _ =>
    typeError ("'caller', 'callee', and 'arguments' properties may not be accessed on strict mode functions or the " ++
      "arguments objects for calls to them")
  let t := Value.object Intrinsic.throwTypeError
  Build.define p (.ofString "caller") (.accessor t t false true)
  Build.define p (.ofString "arguments") (.accessor t t false true)
  -- constructors of the other kinds of functions can be reached through their prototypes only
  kind Intrinsic.generatorFunction Intrinsic.generatorFunctionPrototype "GeneratorFunction" (construct false true)
  kind Intrinsic.asyncFunction Intrinsic.asyncFunctionPrototype "AsyncFunction" (construct true false)
  kind Intrinsic.asyncGeneratorFunction Intrinsic.asyncGeneratorFunctionPrototype "AsyncGeneratorFunction"
    (construct true true)
where
  kind (c p : Ref) (name : String) (f : Behaviour) : Build Unit := do
    Build.constructor c p name 1 f
    Build.setProto c (some Intrinsic.function)
    Build.setProto p (some Intrinsic.functionPrototype)
    Build.define p (.ofString "constructor") (.data (.object c) .configurableOnly)
    Build.tag p name

end Builtin.Functions

end Playpen.Engine
