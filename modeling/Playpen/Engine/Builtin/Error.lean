import Playpen.Engine.Builtin.Basic

/-!
# Built-in functions: errors
-/

namespace Playpen.Engine

open M
open Playpen.Text (Wide)

namespace Builtin.Errors

def constructorOf : ErrorKind → Ref
  | .error => Intrinsic.error
  | .type => Intrinsic.typeError
  | .range => Intrinsic.rangeError
  | .reference => Intrinsic.referenceError
  | .syntaxError => Intrinsic.syntaxError
  | .eval => Intrinsic.evalError
  | .uri => Intrinsic.uriError
  | .aggregate => Intrinsic.aggregateError

/-- The message and the cause that a constructor has been given. -/
def describe (r : Ref) (message options : Value) : M Unit := do
  if !message.isUndefined then
    Heap.setSlot r (.ofString "message") (.data (.text (← toText message)) .hidden)
  match options with
  | .object o =>
    if ← Object.has o (.ofString "cause") then
      Heap.setSlot r (.ofString "cause") (.data (← Object.getNamed o "cause") .hidden)
  | _ => pure ()

/-- Errors are new objects with or without `new`. -/
def construct (k : ErrorKind) : Behaviour := fun i => do
  let i := if i.isConstruct then i else { i with newTarget := .object i.self }
  let r ← Heap.allocKind (some (← i.proto (Intrinsic.errorPrototypeOf k))) .error
  if k == .aggregate then
    describe r (i.arg 1) (i.arg 2)
    let items ← Iter.toArray (i.arg 0)
    Heap.setSlot r (.ofString "errors") (.data (← Object.newArray items) .hidden)
  else describe r (i.arg 0) (i.arg 1)
  return .object r

def toString : Behaviour := fun i => do
  match i.this with
  | .object r =>
    let name ← match ← Object.getNamed r "name" with
      | .undefined => pure (Wide.plain "Error")
      | v => toText v
    let message ← match ← Object.getNamed r "message" with
      | .undefined => pure (Wide.plain "")
      | v => toText v
    if name.isEmpty then return .text message
    else if message.isEmpty then return .text name
    else return .text (name ++ .plain ": " ++ message)
  | _ => typeError "'this' is not an Object"

def kinds : List ErrorKind := [.error, .type, .range, .reference, .syntaxError, .eval, .uri, .aggregate]

def build : Build Unit :=
  kinds.forM fun k => do
    let c := constructorOf k
    let p := Intrinsic.errorPrototypeOf k
    Build.constructor c p k.name (if k == .aggregate then 2 else 1) (construct k)
    Build.hidden p "name" (.str k.name)
    Build.hidden p "message" (.str "")
    if k == .error then Build.method p "toString" 0 toString
    else
      Build.setProto c (some Intrinsic.error)
      Build.setProto p (some Intrinsic.errorPrototype)

end Builtin.Errors

end Playpen.Engine
