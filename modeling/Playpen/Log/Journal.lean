import Playpen.Log.Buffer

/-!
# The journal of a run

While the arguments of a console call are made into texts, code of the user may run and make console
calls of its own.  The journal keeps the calls as a forest, each with those that were made meanwhile,
next to the buffer of their entries.  A call makes its entry when it is completed, so the buffer holds
the forest in postorder; that is part of the type.
-/

namespace Playpen.Log

/-- A console call that has been completed, with the calls made while its arguments became texts. -/
inductive CallTree where
  | node (kind : Kind) (content : String) (nested : List CallTree)
  deriving Inhabited

mutual

/-- The calls of a tree in the order in which they were completed. -/
def CallTree.postorder : CallTree → List Call
  | node kind content nested => postorders nested ++ [(kind, content)]

/-- The calls of a forest, tree after tree. -/
def CallTree.postorders : List CallTree → List Call
  | [] => []
  | tree :: rest => tree.postorder ++ postorders rest

end

theorem CallTree.postorders_append (a b : List CallTree) :
    postorders (a ++ b) = postorders a ++ postorders b := by
  induction a with
  | nil => rfl
  | cons tree rest ih => rw [List.cons_append, postorders, postorders, ih, List.append_assoc]

/-- A buffer with the calls that have made it. -/
structure Journal where
  buffer : Buffer
  /-- The outermost calls. -/
  calls : Array CallTree
  recorded : buffer.calls = CallTree.postorders calls.toList

namespace Journal

def empty : Journal := ⟨.empty, #[], rfl⟩

instance : Inhabited Journal := ⟨empty⟩

theorem toList_extract_size {α : Type} (xs : Array α) (n : Nat) :
    (xs.extract n xs.size).toList = xs.toList.drop n := by
  have hlength : (xs.toList.drop n).length = xs.size - n := by
    rw [List.length_drop, Array.length_toList]
  rw [Array.toList_extract, List.extract_eq_take_drop]
  exact List.take_of_length_le (Nat.le_of_eq hlength)

/-- Completes a call that began when there were `n` outermost calls: those behind them were made
meanwhile. -/
def close (j : Journal) (n : Nat) (kind : Kind) (content : String) : Journal where
  buffer := j.buffer.push kind content
  calls := (j.calls.shrink n).push (.node kind content (j.calls.extract n j.calls.size).toList)
  recorded := by
    rw [Buffer.calls_push, j.recorded, Array.toList_push, Array.toList_shrink, toList_extract_size,
      CallTree.postorders_append, CallTree.postorders, CallTree.postorder, CallTree.postorders,
      List.append_nil, ← List.append_assoc, ← CallTree.postorders_append, List.take_append_drop]

/-- One journal goes on where the other stops. -/
def Extends (j j' : Journal) : Prop := j.calls.toList <+: j'.calls.toList ∧ j.buffer.Grows j'.buffer

theorem Extends.refl (j : Journal) : j.Extends j := ⟨List.prefix_rfl, List.prefix_rfl⟩

theorem Extends.trans {a b c : Journal} (h : a.Extends b) (k : b.Extends c) : a.Extends c :=
  ⟨h.1.trans k.1, Buffer.Grows.trans h.2 k.2⟩

/-- What was made since then are the calls of the new one. -/
theorem calls_close {j j' : Journal} {nested : List CallTree}
    (h : j'.calls.toList = j.calls.toList ++ nested) (kind : Kind) (content : String) :
    (j'.close j.calls.size kind content).calls.toList =
      j.calls.toList ++ [.node kind content nested] := by
  rw [close, Array.toList_push, Array.toList_shrink, toList_extract_size, h, ← Array.length_toList,
    List.take_left, List.drop_left]

/-- A call that began at `j` and is completed goes on where `j` stops. -/
theorem Extends.close {j j' : Journal} (h : j.Extends j') (kind : Kind) (content : String) :
    j.Extends (j'.close j.calls.size kind content) := by
  constructor
  · obtain ⟨nested, hnested⟩ := h.1
    rw [calls_close hnested.symm]
    exact List.prefix_append _ _
  · refine Buffer.Grows.trans h.2 ?_
    show j'.buffer.entries.toList <+: (j'.buffer.entries.push _).toList
    rw [Array.toList_push]
    exact List.prefix_append _ _

end Journal

end Playpen.Log
