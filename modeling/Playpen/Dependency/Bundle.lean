import Playpen.Table

/-!
# Bundles

The sources of one dependency's modules, by URL, in the order in which they were fetched.
-/

namespace Playpen.Dependency

/-- Module sources by URL, and the URL where evaluation begins. -/
structure Bundle where
  entry : String
  sources : Table String
  deriving Inhabited

namespace Bundle

/-- No modules yet. -/
def ofEntry (entry : String) : Bundle := ⟨entry, Table.empty⟩

def insert (b : Bundle) (url source : String) : Bundle := { b with sources := b.sources.insert url source }

def source? (b : Bundle) (url : String) : Option String := b.sources.get? url

def urls (b : Bundle) : List String := b.sources.keys

def size (b : Bundle) : Nat := b.sources.size

def isEmpty (b : Bundle) : Bool := b.size = 0

end Bundle

end Playpen.Dependency
