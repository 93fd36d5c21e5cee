import Playpen.Text.Entries
import Playpen.Text.Property.Category
import Playpen.Text.Property.Script
import Playpen.Text.Property.Binary

/-!
# Properties of characters by name

A property is a general category or a group of them, a script, or one of the properties that a
character has or has not.  `Property.ranges?` gives the characters that have a named property.
-/

namespace Playpen.Text.Property

/-- Inclusive ranges of code points. -/
abbrev Ranges := Array (Nat × Nat)

def lastCodePoint : Nat := 0x10FFFF

/-- The ranges between the edges of a class, the first of which goes into it. -/
def rangesOf : List Nat → List (Nat × Nat)
  | first :: next :: rest => (first, next - 1) :: rangesOf rest
  | [first] => [(first, lastCodePoint)]
  | [] => []

/-- The ranges of the characters outside of a class. -/
def rangesOutside (edges : List Nat) : List (Nat × Nat) :=
  match edges with
  | 0 :: rest => rangesOf rest
  | edges => rangesOf (0 :: edges)

/-- The edges of the class with a name in a table. -/
def edges? (table : List (List String × String)) (name : String) : Option (List Nat) :=
  (table.find? (·.1.contains name)).map fun (_, text) => (readEdges text).toList

def category? (name : String) : Option (List (Nat × Nat)) :=
  match categoryGroups.find? (·.1.contains name) with
  | some (_, members) => (members.mapM (edges? categories)).map (·.flatMap rangesOf)
  | none => (edges? categories name).map rangesOf

def script? (name : String) : Option (List (Nat × Nat)) := (edges? scripts name).map rangesOf

/-- All characters used with a script. -/
def scriptExtension? (name : String) : Option (List (Nat × Nat)) :=
  match scripts.find? (·.1.contains name) with
  | some (names, _) => ((edges? scriptExtensions (names.headD "")).map rangesOf).or (script? name)
  | none => none

def binary? (name : String) : Option (List (Nat × Nat)) :=
  if name == "Assigned" then (edges? categories "Cn").map rangesOutside
  else (edges? binary name).map rangesOf

/-- The characters that have a property. -/
def ranges? (name : String) : Option Ranges :=
  (match name.splitOn "=" with
    | [name] => (category? name).or (binary? name)
    | ["General_Category", name] | ["gc", name] => category? name
    | ["Script", name] | ["sc", name] => script? name
    | ["Script_Extensions", name] | ["scx", name] => scriptExtension? name
    | _ => none).map List.toArray

end Playpen.Text.Property
