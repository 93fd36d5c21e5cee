import Playpen.Engine.Builtin.Basic

/-!
# Built-in functions: the console

Each call of a console method leaves one entry in the log, whatever its arguments are: an argument
that cannot be turned into a text is shown as a placeholder.  Arguments may have code of the user run
while they become texts; the calls that it makes are completed first.
-/

namespace Playpen.Engine

open M

namespace Builtin.Console

/-- Stands for a value that has no text. -/
def unprintable : String := "[unprintable value]"

/-- What `String` makes of a value. -/
def coerced (v : Value) : M (Option String) := do
  match ← attempt (call (.object Intrinsic.string) .undefined #[v]) with
  | .ok (.text w) => return some w.display
  | _ => return none

/-- A value in the log: objects that are no functions in JSON, if they can be, and all others as
`String` has them. -/
def text (v : Value) : M String := do
  let plain : M String := return (← coerced v).getD unprintable
  if v.isObject && !(← Object.isCallable v) then
    match ← attempt (call (.object Intrinsic.jsonStringify) .undefined #[v]) with
    | .ok .undefined => return ""
    | .ok (.text w) => return w.display
    | _ => plain
  else plain

/-- The texts of arguments, in order. -/
def texts : List Value → M (List String)
  | [] => return []
  | v :: rest => do
    let s ← text v
    return s :: (← texts rest)

/-- Makes the entry of a call. -/
def record (kind : Log.Kind) : Behaviour := fun i => do
  logCall kind do return "\n".intercalate (← texts i.args.toList)
  return .undefined

/-- A console, with a method for each kind of entry. -/
def alloc : M Value := do
  let o ← Object.newObject
  Log.Kind.all.forM fun kind => do
    let f ← Promise.newNative (.console kind) 0 #[]
    match f with
    | .object r => Heap.setSlot r (.ofString "name") (.data (.str kind.name) .configurableOnly)
    | _ => pure ()
    Heap.setSlot o (.ofString kind.name) (.data f .hidden)
  return .object o

end Builtin.Console

end Playpen.Engine
