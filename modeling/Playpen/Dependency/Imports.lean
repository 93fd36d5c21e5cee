import Playpen.Dependency.Basic
import Playpen.Script.Parser.Program

/-!
# What a module imports

The specifiers of a module's static imports, and the URLs they stand for.  A specifier is a whole
URL, a path seen from the importing module, or the bare name of a package, which stands for that
package's entry on the same origin.
-/

namespace Playpen.Dependency

/-- How modules are read when their imports are looked for. -/
def moduleMode : Script.Lexer.Mode := { typed := false, markup := false, isModule := true }

/-- The literal that names the module which a statement asks for. -/
def importedBy (s : Script.Stmt) : Option Script.Written :=
  match s.bare with
  | .imports _ source _ => some source
  | .exportAll _ source => some source
  | .exportNames _ (some source) => some source
  | _ => none

/-- A list without the repetitions of earlier items. -/
def distinct (xs : List String) : List String :=
  (xs.foldl (fun acc x => if acc.contains x then acc else x :: acc) []).reverse

/-- The specifiers a module imports statically, in source order, each once. -/
def scanImports (url source : String) : Except Error (List String) :=
  match Script.parse moduleMode false source with
  | .error complaints => .error (.malformed url ("; ".intercalate (complaints.map (·.brief))))
  | .ok parsed =>
    let stmts := parsed.program.stmts
    match Script.repeated (Script.exportedNames stmts) with
    | [] => .ok (distinct ((stmts.filterMap importedBy).map (·.handed)))
    | names => .error (.malformed url ("; ".intercalate (names.map fun n => s!"Duplicated export '{n}'")))

/-- Whether a specifier is a path. -/
def isPath (specifier : String) : Bool :=
  specifier.startsWith "/" || specifier.startsWith "./" || specifier.startsWith "../"

/-- The URL that a specifier stands for in the module at `referrer`. -/
def resolveSpecifier (referrer : Url) (specifier : String) : Except Error Url :=
  let unresolvable := Error.unresolvable specifier referrer.text
  let join (s : String) : Except Error Url :=
    match referrer.join s with
    | .ok u => .ok u
    | .error _ => .error unresolvable
  match Url.parse specifier with
  | .ok u => if u.scheme = "http" ∨ u.scheme = "https" then .ok u else .error unresolvable
  | .error _ =>
    if isPath specifier then join specifier
    else if specifier = "" then .error unresolvable
    else join ("/npm/" ++ specifier ++ "/+esm")

end Playpen.Dependency
