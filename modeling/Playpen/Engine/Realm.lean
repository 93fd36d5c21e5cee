import Playpen.Engine.Builtin.Array
import Playpen.Engine.Builtin.Collection
import Playpen.Engine.Builtin.Console
import Playpen.Engine.Builtin.Date
import Playpen.Engine.Builtin.Error
import Playpen.Engine.Builtin.Eval
import Playpen.Engine.Builtin.Function
import Playpen.Engine.Builtin.Global
import Playpen.Engine.Builtin.Iterator
import Playpen.Engine.Builtin.Json
import Playpen.Engine.Builtin.Math
import Playpen.Engine.Builtin.Number
import Playpen.Engine.Builtin.Object
import Playpen.Engine.Builtin.Promise
import Playpen.Engine.Builtin.Reflect
import Playpen.Engine.Builtin.Regex
import Playpen.Engine.Builtin.String
import Playpen.Engine.Builtin.Symbol
import Playpen.Engine.Builtin.TypedArray

/-!
# The realm

Everything that a script finds when it starts, and the machine that no script has touched.
-/

namespace Playpen.Engine

namespace Realm

/-- Lays out all built-in objects. -/
def build : Build Unit := do
  Builtin.Functions.build
  Builtin.Objects.build
  Builtin.Errors.build
  Builtin.Arrays.build
  Builtin.Texts.build
  Builtin.Numbers.buildNumber
  Builtin.Numbers.buildBoolean
  Builtin.Numbers.buildBigint
  Builtin.Symbols.build
  Builtin.Regexes.build
  Builtin.Collections.buildMap
  Builtin.Collections.buildSet
  Builtin.Collections.buildWeak
  Builtin.Iterators.build
  Builtin.Promises.build
  Builtin.Reflection.build
  Builtin.JsonText.build
  Builtin.Mathematics.build
  Builtin.Dates.build
  Builtin.Bytes.build
  Builtin.Bytes.buildView
  Builtin.TypedArrays.build
  Build.functionAt Intrinsic.eval "eval" 1 Builtin.Eval.indirect
  Builtin.Globals.build

/-- Where the built-in objects are put; all but the first inherit from it to begin with. -/
def ground : Layout :=
  ⟨(Array.range Intrinsic.count).map fun i => Build.plainObject (if i = 0 then none else some Intrinsic.objectPrototype),
    #[]⟩

def layout : Layout := (build ground).2

/-- What a built-in function does. -/
def behaviour : Native → Behaviour
  | .listed i => layout.natives.getD i fun _ => return .undefined
  | .promiseResolve => Builtin.Promises.settler true
  | .promiseReject => Builtin.Promises.settler false
  | .capabilityExecutor => Builtin.Promises.executor
  | .proxyRevoke => Builtin.Reflection.revoke
  | .combinatorElement which => Builtin.Promises.element which
  | .thenFinally => Builtin.Promises.afterFinally false
  | .catchFinally => Builtin.Promises.afterFinally true
  | .constant => Builtin.Promises.constant
  | .thrower => Builtin.Promises.thrower
  | .asyncFromSyncUnwrap => Builtin.Promises.unwrapped
  | .console kind => Builtin.Console.record kind

/-- The descriptions of the well-known symbols. -/
def symbols : Array (Option Text.Wide) := (Sym.names.map fun n => some (.plain ("Symbol." ++ n))).toArray

/-- The machine before any script has run. -/
def machine (limits : Limits) : Machine := {
  heap := layout.heap, stack := #[], frame := default, frames := [], depth := 0
  envs := #[⟨0, .global, #[], #[]⟩], symbols := symbols, registry := .empty, templates := [], jobs := #[], imports := []
  modules := #[], sources := .empty, instances := .empty, native := "", joining := [], limits := limits
  asyncCounter := 0, codeCounter := 0, random := 88172645463325252, log := .empty }

end Realm

end Playpen.Engine
