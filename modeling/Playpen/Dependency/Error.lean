/-!
# Why a dependency cannot be used
-/

namespace Playpen.Dependency

/-- Why a dependency was not added or not loaded. -/
inductive Error where
  /-- A text that names no package and version. -/
  | invalidSpec (spec : String)
  /-- The name of something every script can see already. -/
  | reservedName (name : String)
  /-- Another listed dependency is bound under the same identifier. -/
  | bindingConflict (name existing identifier : String)
  | invalidUrl (url message : String)
  | fetch (url message : String)
  /-- The answer to a fetch was no success. -/
  | status (url : String) (code : Nat)
  /-- A fetched text is not a module. -/
  | malformed (url message : String)
  /-- The modules threw, or did not link, when they were tried. -/
  | evaluation (name message : String)
  | unresolvable (specifier referrer : String)
  | tooManyModules (name : String) (limit : Nat)
  deriving DecidableEq, Repr

def Error.message : Error → String
  | invalidSpec spec => s!"invalid dependency spec: {spec}"
  | reservedName name => s!"'{name}' is reserved and cannot be used as a dependency name"
  | bindingConflict name existing identifier =>
    s!"'{name}' would be bound as '{identifier}', which '{existing}' already uses"
  | invalidUrl url message => s!"invalid URL '{url}': {message}"
  | fetch url message => s!"failed to fetch {url}: {message}"
  | status url code => s!"failed to fetch {url}: HTTP {code}"
  | malformed url message => s!"malformed module {url}: {message}"
  | evaluation name message => s!"dependency '{name}' failed to evaluate: {message}"
  | unresolvable specifier referrer => s!"cannot resolve '{specifier}' from {referrer}"
  | tooManyModules name limit => s!"dependency '{name}' imports more than {limit} modules"

end Playpen.Dependency
