import Playpen.Engine.Closure
import Playpen.Engine.Builtin.Basic
import Playpen.Engine.Source

/-!
# Built-in functions: `eval`
-/

namespace Playpen.Engine

open M

namespace Builtin.Eval

/-- The code of a text; in a direct call it sees the names around it. -/
def compile (text : String) (strict direct : Bool) : M Code := do
  match Source.programOf strict text with
  | .error message => raise .syntaxError message
  | .ok (p, origin) =>
    updateGet fun m =>
      let (code, counter) := Compile.evalCode origin m.codeCounter p direct
      (code, { m with codeCounter := counter })

/-- `eval` under another name: the text is run outside of all functions. -/
def indirect : Behaviour := fun i => do
  match i.arg 0 with
  | .text w =>
    let code ← compile w.display false false
    let f ← Closure.alloc { Closure.ofCode code 0 with this := .object Intrinsic.global }
    call (.object f) .undefined #[]
  | v => return v

end Builtin.Eval

end Playpen.Engine
