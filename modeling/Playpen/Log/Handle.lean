import Playpen.Log.Buffer

/-!
# Handles

A buffer may have any number of handles, and all of them lead to one recorder: what is done through
one of them is seen through the others.  A recorder counts its entries beside the list of them, in a
word of 64 bits.
-/

namespace Playpen.Log

/-- What the handles of one buffer share: its entries, and the number of the next one. -/
structure Recorder where
  entries : Array Entry
  nextSequence : UInt64

namespace Recorder

def empty : Recorder := ⟨#[], 0⟩

/-- No list is longer, since the bytes that one takes are counted by a signed word of 64 bits. -/
def capacity : Nat := 0x7fffffffffffffff

/-- Appends an entry, and gives its number.  Nothing comes of it if there is no room. -/
def push (r : Recorder) (kind : Kind) (content : String) : Option (UInt64 × Recorder) :=
  let sequence := r.nextSequence
  if r.entries.size < capacity then
    some (sequence, ⟨r.entries.push ⟨kind, content, sequence.toNat⟩, sequence + 1⟩)
  else none

/-- Drops all entries; the next one has number zero again. -/
def reset (r : Recorder) : Recorder := { r with entries := #[], nextSequence := 0 }

def size (r : Recorder) : Nat := r.entries.size

def isEmpty (r : Recorder) : Bool := r.size = 0

/-- What the recorder holds now. -/
def snapshot (r : Recorder) : Transcript := ⟨r.entries.toList⟩

end Recorder

/-- A handle to a buffer: the place of its recorder. -/
structure Handle where
  place : Nat
  deriving DecidableEq, Repr

/-- Another handle to the same buffer. -/
def Handle.clone (h : Handle) : Handle := h

/-- The recorders of all buffers, each in its place. -/
structure Memory where
  recorders : Array Recorder

namespace Memory

def empty : Memory := ⟨#[]⟩

instance : Inhabited Memory := ⟨empty⟩

/-- Makes a new buffer, and gives a handle to it. -/
def create (m : Memory) : Handle × Memory := (⟨m.recorders.size⟩, ⟨m.recorders.push .empty⟩)

/-- The recorder that a handle leads to. -/
def recorder? (m : Memory) (h : Handle) : Option Recorder := m.recorders[h.place]?

def put (m : Memory) (h : Handle) (r : Recorder) : Memory := ⟨m.recorders.setIfInBounds h.place r⟩

def push (m : Memory) (h : Handle) (kind : Kind) (content : String) : Option (UInt64 × Memory) := do
  let (sequence, r) ← (← m.recorder? h).push kind content
  return (sequence, m.put h r)

def reset (m : Memory) (h : Handle) : Option Memory := do
  return m.put h (← m.recorder? h).reset

def size (m : Memory) (h : Handle) : Option Nat := (m.recorder? h).map Recorder.size

def isEmpty (m : Memory) (h : Handle) : Option Bool := (m.recorder? h).map Recorder.isEmpty

def snapshot (m : Memory) (h : Handle) : Option Transcript := (m.recorder? h).map Recorder.snapshot

end Memory

end Playpen.Log
