import Playpen.Engine.Builtin.Basic

/-!
# Built-in functions: symbols
-/

namespace Playpen.Engine

open M
open Playpen.Text (Wide)

namespace Builtin.Symbols

def newSymbol (description : Option Wide) : M Nat :=
  updateGet fun m => (m.symbols.size, { m with symbols := m.symbols.push description })

def thisSymbol (v : Value) : M Nat := do
  match v with
  | .symbol id => return id
  | .object r =>
    match ← Heap.kindOf r with
    | .wrapper (.symbol id) => return id
    | _ => typeError "'this' is not a Symbol"
  | _ => typeError "'this' is not a Symbol"

def construct : Behaviour := fun i => do
  if i.isConstruct then typeError "Symbol is not a constructor"
  match i.arg 0 with
  | .undefined => return .symbol (← newSymbol none)
  | v => return .symbol (← newSymbol (some (← toText v)))

/-- The symbol that all scripts share under a text. -/
def forKey : Behaviour := fun i => do
  let w ← toText (i.arg 0)
  let key := w.display
  match ← look fun m => m.registry.get? key with
  | some id => return .symbol id
  | none =>
    let id ← newSymbol (some w)
    update fun m => { m with registry := m.registry.insert key id }
    return .symbol id

def keyFor : Behaviour := fun i => do
  match i.arg 0 with
  | .symbol id =>
    match ← look fun m => m.registry.entries.find? (·.2 == id) with
    | some (k, _) => return .str k
    | none => return .undefined
  | _ => typeError "Symbol.keyFor: sym is not a symbol"

def build : Build Unit := do
  let c := Intrinsic.symbol
  let p := Intrinsic.symbolPrototype
  Build.constructor c p "Symbol" 0 construct
  (List.range Sym.names.length).zip Sym.names |>.forM fun (id, name) => Build.constant c name (.symbol id)
  Build.method c "for" 1 forKey
  Build.method c "keyFor" 1 keyFor
  Build.method p "toString" 0 fun i => return .str (← Object.keyText (.symbol (← thisSymbol i.this)))
  Build.method p "valueOf" 0 fun i => return .symbol (← thisSymbol i.this)
  Build.getter p "description" fun i => do
    let id ← thisSymbol i.this
    match ← look fun m => m.symbols.getD id none with
    | some w => return .text w
    | none => return .undefined
  let f ← Build.function "[Symbol.toPrimitive]" 1 fun i => return .symbol (← thisSymbol i.this)
  Build.define p (.symbol Sym.toPrimitive) (.data (.object f) .configurableOnly)
  Build.tag p "Symbol"

end Builtin.Symbols

end Playpen.Engine
