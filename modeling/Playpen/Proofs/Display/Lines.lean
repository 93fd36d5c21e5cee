import Playpen.Display.Segment

/-!
# Texts in lines

Line feeds cut a text into its lines, and a text is its lines with line feeds
between them (`intercalate_lines`).  What has no line feed in it may be put before
a text and becomes the beginning of its first line.
-/

namespace Playpen.Display

/-- There is no line feed in the text. -/
def OneLine (text : String) : Prop := '\n' ∉ text.toList

instance (text : String) : Decidable (OneLine text) := inferInstanceAs (Decidable ('\n' ∉ text.toList))

section

variable {s t : String}

theorem oneLine_append (hs : OneLine s) (ht : OneLine t) : OneLine (s ++ t) := by
  rw [OneLine, String.toList_append, List.mem_append]
  exact not_or.mpr ⟨hs, ht⟩

/-- A text of characters of a class that has no line feed. -/
theorem oneLine_of_forall {p : Char → Bool} (h : ∀ c ∈ t.toList, p c = true)
    (hp : p '\n' = false) : OneLine t := by
  intro hmem
  rw [h _ hmem] at hp
  cases hp

end

/-! ## Cutting -/

theorem splitLines_append {cs : List Char} (h : '\n' ∉ cs) (line rest : List Char) :
    splitLines line (cs ++ rest) = splitLines (cs.reverse ++ line) rest := by
  induction cs generalizing line with
  | nil => rfl
  | cons c cs ih =>
    obtain ⟨hc, hcs⟩ := List.ne_and_not_mem_of_not_mem_cons h
    rw [List.cons_append, splitLines, if_neg (Ne.symm hc), ih hcs, List.reverse_cons,
      List.append_assoc]
    rfl

/-- What stands before the cursor is the beginning of the first line. -/
theorem exists_splitLines (cs : List Char) :
    ∃ first rest, ∀ line, splitLines line cs = (line.reverse ++ first) :: rest := by
  induction cs with
  | nil => exact ⟨[], [], fun line => by rw [splitLines, List.append_nil]⟩
  | cons c cs ih =>
    obtain ⟨first, rest, h⟩ := ih
    by_cases hc : c = '\n'
    · exact ⟨[], splitLines [] cs, fun line => by rw [splitLines, if_pos hc, List.append_nil]⟩
    · refine ⟨c :: first, rest, fun line => ?_⟩
      rw [splitLines, if_neg hc, h, List.reverse_cons, List.append_assoc]
      rfl

theorem splitLines_break (line cs rest : List Char) :
    splitLines line (cs ++ '\n' :: rest) = splitLines line cs ++ splitLines [] rest := by
  induction cs generalizing line with
  | nil => rfl
  | cons c cs ih =>
    rw [List.cons_append, splitLines, splitLines]
    split
    · rw [ih, List.cons_append]
    · exact ih _

theorem intercalate_splitLines (line cs : List Char) :
    List.intercalate ['\n'] (splitLines line cs) = line.reverse ++ cs := by
  induction cs generalizing line with
  | nil => simp [splitLines]
  | cons c cs ih =>
    rw [splitLines]
    split
    · rename_i hc
      obtain ⟨first, rest, h⟩ := exists_splitLines cs
      have hrest := ih []
      rw [h] at hrest ⊢
      rw [List.intercalate_cons_cons, hrest, hc]
      simp
    · rw [ih, List.reverse_cons, List.append_assoc]
      rfl

theorem not_mem_splitLines {line cs piece : List Char} (hline : '\n' ∉ line)
    (h : piece ∈ splitLines line cs) : '\n' ∉ piece := by
  induction cs generalizing line with
  | nil =>
    rw [List.mem_singleton.mp h, List.mem_reverse]
    exact hline
  | cons c cs ih =>
    rw [splitLines] at h
    split at h
    · rcases List.mem_cons.mp h with rfl | h
      · rwa [List.mem_reverse]
      · exact ih List.not_mem_nil h
    · rename_i hc
      exact ih (List.not_mem_cons_of_ne_of_not_mem (Ne.symm hc) hline) h

/-! ## The lines of a text -/

variable {s t : String}

theorem lines_of_oneLine (h : OneLine t) : lines t = [t] := by
  have hsplit := splitLines_append h [] []
  rw [List.append_nil] at hsplit
  simp [lines, hsplit, splitLines]

/-- What has no line feed begins the first line of what it is put before. -/
theorem exists_lines (t : String) :
    ∃ first rest, lines t = first :: rest ∧
      ∀ s, OneLine s → lines (s ++ t) = (s ++ first) :: rest := by
  obtain ⟨first, rest, h⟩ := exists_splitLines t.toList
  refine ⟨String.ofList first, rest.map String.ofList, ?_, fun s hs => ?_⟩
  · rw [lines, h]
    rfl
  · rw [lines, String.toList_append, splitLines_append hs, h, List.map_cons]
    simp

theorem lines_break (s t : String) : lines (s ++ "\n" ++ t) = lines s ++ lines t := by
  rw [lines, lines, lines, ← List.map_append, ← splitLines_break]
  simp

theorem intercalate_lines (t : String) : "\n".intercalate (lines t) = t := by
  rw [← String.toList_inj, String.toList_intercalate, lines, List.map_map]
  have hid : String.toList ∘ String.ofList = id := funext fun cs => String.toList_ofList
  rw [hid, List.map_id]
  exact intercalate_splitLines [] t.toList

theorem oneLine_of_mem_lines (h : s ∈ lines t) : OneLine s := by
  obtain ⟨piece, hpiece, rfl⟩ := List.mem_map.mp h
  rw [OneLine, String.toList_ofList]
  exact not_mem_splitLines List.not_mem_nil hpiece

end Playpen.Display
