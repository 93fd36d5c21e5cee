import Playpen.Dependency.Basic
import Playpen.Dependency.Bundle
import Playpen.Dependency.Identifier

/-!
# The registry of dependencies

Two tables under one roof: what is listed, each name with the state of its load, and what is bound,
each name with its modules.  A load runs between `begin`, which lists the name and hands out a
ticket, and `commit` or `fail`, which act only while the ticket's generation is still the listed
one; so a load that was overtaken by a removal or by a later load of the same name changes nothing.
-/

namespace Playpen.Dependency

/-- How far the load of a listed dependency has come. -/
inductive Status where
  /-- The fetch is under way. -/
  | loading
  /-- Bound and visible to runs. -/
  | loaded
  /-- Listed, but not bound. -/
  | failed (message : String)
  deriving DecidableEq, Repr

/-- A dependency, the generation of its latest load, and that load's state. -/
structure Listing where
  dependency : Dependency
  generation : Nat
  status : Status
  deriving DecidableEq, Repr

/-- The right to finish one load. -/
structure Ticket where
  name : String
  generation : Nat
  deriving DecidableEq, Repr

/-- Listed and bound dependencies. -/
structure Registry where
  listings : Table Listing
  bundles : Table Bundle
  nextGeneration : Nat

namespace Status

def toJson : Status → Json
  | loading => .object [("state", .string "loading")]
  | loaded => .object [("state", .string "loaded")]
  | failed message => .object [("state", .string "failed"), ("error", .string message)]

end Status

def Listing.toJson (l : Listing) : Json :=
  .object [("dependency", l.dependency.toJson), ("status", l.status.toJson)]

namespace Registry

def empty : Registry := ⟨Table.empty, Table.empty, 0⟩

instance : Inhabited Registry := ⟨empty⟩

/-- Names that scripts see already. -/
def reservedNames : List String := ["console"]

/-- The listed name, other than `name` itself, that is bound under the same identifier. -/
def conflict? (r : Registry) (name : String) : Option String :=
  let identifier := bindingIdentifier name
  r.listings.keys.find? fun listed => listed ≠ name && bindingIdentifier listed = identifier

/-- Lists a dependency as loading.  A binding that an earlier load left stays until this one ends. -/
def begin (r : Registry) (d : Dependency) : Except Error (Ticket × Registry) :=
  if d.name = "" then .error (.invalidSpec d.name)
  else if reservedNames.contains d.name then .error (.reservedName d.name)
  else match r.conflict? d.name with
    | some existing => .error (.bindingConflict d.name existing (bindingIdentifier d.name))
    | none =>
      let generation := r.nextGeneration
      .ok (⟨d.name, generation⟩, { r with
        listings := r.listings.insert d.name ⟨d, generation, .loading⟩
        nextGeneration := generation + 1 })

/-- The listing a ticket may still change. -/
def current? (r : Registry) (t : Ticket) : Option Listing :=
  (r.listings.get? t.name).filter (·.generation = t.generation)

/-- Binds what a load brought; the flag says whether the ticket was still good. -/
def commit (r : Registry) (t : Ticket) (b : Bundle) : Bool × Registry :=
  match r.current? t with
  | none => (false, r)
  | some l =>
    (true, { r with
      listings := r.listings.insert t.name { l with status := .loaded }
      bundles := r.bundles.insert t.name b })

/-- Records that a load failed; the dependency stays listed and is no longer bound. -/
def fail (r : Registry) (t : Ticket) (message : String) : Bool × Registry :=
  match r.current? t with
  | none => (false, r)
  | some l =>
    (true, { r with
      listings := r.listings.insert t.name { l with status := .failed message }
      bundles := r.bundles.erase t.name })

/-- Removes a dependency; the flag says whether it was listed. -/
def remove (r : Registry) (name : String) : Bool × Registry :=
  (r.listings.contains name,
    { r with listings := r.listings.erase name, bundles := r.bundles.erase name })

/-- The bound dependencies, in order of binding. -/
def snapshot (r : Registry) : List (String × Bundle) := r.bundles.entries

/-- The listed dependencies, in order of listing. -/
def dependencies (r : Registry) : List Listing := r.listings.values

def bundle? (r : Registry) (name : String) : Option Bundle := r.bundles.get? name

def isListed (r : Registry) (name : String) : Bool := r.listings.contains name

def isBound (r : Registry) (name : String) : Bool := r.bundles.contains name

end Registry

end Playpen.Dependency
