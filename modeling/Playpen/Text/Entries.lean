import Playpen.Text.Classes

/-!
# Tables written as texts

A large table is written as a text of entries with blanks between them, and an entry holds numbers
in hexadecimal with punctuation between them.  A class of characters is then the text of the gaps
between its edges.
-/

namespace Playpen.Text

/-- How far a table has been read: the entries that are complete, the numbers of the entry being
read, and the number being read. -/
structure TableReading where
  entries : Array (Array Nat)
  numbers : Array Nat
  number : Option Nat

namespace TableReading

def start : TableReading := ⟨#[], #[], none⟩

def endNumber (r : TableReading) : TableReading :=
  match r.number with
  | some n => ⟨r.entries, r.numbers.push n, none⟩
  | none => r

def endEntry (r : TableReading) : TableReading :=
  let r := r.endNumber
  if r.numbers.isEmpty then r else ⟨r.entries.push r.numbers, #[], none⟩

def step (r : TableReading) (c : Char) : TableReading :=
  if isHexDigit c then { r with number := some (r.number.getD 0 * 16 + hexValue c) }
  else if c = ' ' ∨ c = '\n' then r.endEntry
  else r.endNumber

end TableReading

/-- The entries of a table. -/
def readEntries (table : String) : Array (Array Nat) :=
  (table.foldl TableReading.step .start).endEntry.entries

/-- The edges of a class that is written as the gaps between them. -/
def readEdges (table : String) : Array Nat :=
  ((readEntries table).foldl (fun (edges, last) gap =>
    let edge := last + gap.getD 0 0
    (edges.push edge, edge)) (#[], 0)).1

end Playpen.Text
