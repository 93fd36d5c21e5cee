import Playpen.Dependency.Walk

/-!
# Without a network

How every fetch fails where nothing can be reached.
-/

namespace Playpen.Dependency

/-- A URL without name and password, which are never written into a complaint. -/
def withoutCredentials (u : Url) : Url := { u with username := "", password := "" }

/-- Why nothing is fetched from a URL: it is not one of the web, or nobody answers. -/
def unreachable (u : Url) : String :=
  let address := (withoutCredentials u).text
  if u.scheme = "http" ∨ u.scheme = "https" then s!"error sending request for url ({address})"
  else s!"builder error for url ({address})"

/-- The network that reaches nothing. -/
def offline (url : String) : Reply :=
  .answered (.error (.fetch url (match Url.parse url with
    | .ok u => unreachable u
    | .error e => e.message)))

end Playpen.Dependency
