import Playpen.Log.Entry

/-!
# The buffer of a run

A buffer only grows, and an entry's sequence number is its position; that is part of the type, so
every buffer a run can reach is numbered `0, 1, …` in order of emission.
-/

namespace Playpen.Log

/-- A console call: its kind and its text. -/
abbrev Call := Kind × String

/-- The entries of a run so far. -/
structure Buffer where
  entries : Array Entry
  numbered : ∀ (i : Nat) (h : i < entries.size), entries[i].sequence = i

namespace Buffer

def empty : Buffer := ⟨#[], fun _ h => absurd h (Nat.not_lt_zero _)⟩

instance : Inhabited Buffer := ⟨empty⟩

def size (b : Buffer) : Nat := b.entries.size

/-- Appends an entry; it gets the next number. -/
def push (b : Buffer) (kind : Kind) (content : String) : Buffer where
  entries := b.entries.push ⟨kind, content, b.entries.size⟩
  numbered i h := by
    rw [Array.getElem_push]
    split
    · exact b.numbered i _
    · rw [Array.size_push] at h
      show b.entries.size = i
      omega

/-- The calls that have made a buffer. -/
def calls (b : Buffer) : List Call := b.entries.toList.map fun e => (e.kind, e.content)

@[simp] theorem calls_empty : empty.calls = [] := rfl

@[simp] theorem calls_push (b : Buffer) (kind : Kind) (content : String) :
    (b.push kind content).calls = b.calls ++ [(kind, content)] := by
  simp [calls, push]

/-- What the buffer holds now. -/
def snapshot (b : Buffer) : Transcript := ⟨b.entries.toList⟩

/-- One buffer goes on where the other stops. -/
def Grows (b b' : Buffer) : Prop := b.entries.toList <+: b'.entries.toList

theorem Grows.trans {a b c : Buffer} (h : a.Grows b) (k : b.Grows c) : a.Grows c := List.IsPrefix.trans h k

end Buffer

end Playpen.Log
