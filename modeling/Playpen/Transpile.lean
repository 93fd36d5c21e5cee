import Playpen.Config
import Playpen.Script.Elision
import Playpen.Script.Printer

/-!
# Transpiling

A typed source becomes a plain script: it is read as a script with types (and with markup, if the
dialect has it), what only types need is left out, and the rest is written out again.
-/

namespace Playpen

namespace Transpile

/-- Why a source has no plain form.  Every complaint is one message. -/
inductive Error where
  /-- The source is not a script. -/
  | malformed (complaints : List String)
  /-- The source is a script, but something in it has no plain form. -/
  | unsupported (complaints : List String)
  deriving DecidableEq, Repr

def Error.message : Error → String
  | malformed cs => "SyntaxError: " ++ "; ".intercalate cs
  | unsupported cs => "TransformError: " ++ "; ".intercalate cs

end Transpile

/-- How typed sources of a dialect are read. -/
def Dialect.mode (d : Dialect) : Script.Lexer.Mode :=
  { typed := true, markup := d.jsx, isModule := false }

/-- The plain script that a typed source stands for. -/
def transpile (d : Dialect) (source : String) : Except Transpile.Error String :=
  match Script.parse d.mode false source with
  | .error complaints => .error (.malformed (complaints.map (·.brief)))
  | .ok parsed =>
    if parsed.state.unsupported.isEmpty then .ok (Script.Elision.program parsed).text
    else .error (.unsupported parsed.state.unsupported.reverse)

end Playpen
