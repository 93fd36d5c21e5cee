import Playpen.Proofs.Decimal.Literal

/-!
# What is shown as a number

A text is meant to be shown as a number if a script would convert it to one,
blank texts aside.  The two agree on literals, and nearly on the blanks around
them: U+0085 is white space to the one and nothing to the other.  So the texts
that are shown as numbers are those that convert and are not blank, and besides
them the literals with a U+0085 among the blanks around them
(`isNumeric_iff_converts`).
-/

namespace Playpen.Display

open Playpen.Decimal (NumberLiteral Surrounded Converts scriptBlanks)

/-- A literal among blanks of which at least one is U+0085. -/
def NextLineAround (cs : List Char) : Prop :=
  ∃ before core after, cs = before ++ core ++ after ∧ NumberLiteral core ∧
    (∀ c ∈ before ++ after, c ∈ scriptBlanks ∨ c = '\u0085') ∧ '\u0085' ∈ before ++ after

variable {cs : List Char}

theorem not_visible_of_mem_or {c : Char} (h : c ∈ scriptBlanks ∨ c = '\u0085') :
    ¬ Decimal.Visible c := by
  rcases h with h | rfl
  · exact Decimal.not_visible_of_mem h
  · unfold Decimal.Visible
    decide

theorem isNumeric_iff_surrounded (text : String) :
    isNumeric text = true ↔
      Surrounded (fun c => c ∈ scriptBlanks ∨ c = '\u0085') text.toList := by
  rw [Decimal.isNumeric_iff]
  exact Decimal.numberLiteral_trimBy_iff Decimal.isNumberBlank_iff fun c => not_visible_of_mem_or

/-- With U+0085 among the blanks, a literal has blanks of the script language
around it, or U+0085 is one of them. -/
theorem surrounded_iff : Surrounded (fun c => c ∈ scriptBlanks ∨ c = '\u0085') cs ↔
    Surrounded (· ∈ scriptBlanks) cs ∨ NextLineAround cs := by
  constructor
  · rintro ⟨before, core, after, rfl, hcore, hbefore, hafter⟩
    have hblank : ∀ c ∈ before ++ after, c ∈ scriptBlanks ∨ c = '\u0085' := by
      intro c hc
      rcases List.mem_append.mp hc with hc | hc
      · exact hbefore c hc
      · exact hafter c hc
    by_cases hnext : '\u0085' ∈ before ++ after
    · exact Or.inr ⟨before, core, after, rfl, hcore, hblank, hnext⟩
    · have honly : ∀ c ∈ before ++ after, c ∈ scriptBlanks := by
        intro c hc
        rcases hblank c hc with h | rfl
        · exact h
        · exact absurd hc hnext
      exact Or.inl ⟨before, core, after, rfl, hcore,
        fun c hc => honly c (List.mem_append_left _ hc),
        fun c hc => honly c (List.mem_append_right _ hc)⟩
  · rintro (⟨before, core, after, rfl, hcore, hbefore, hafter⟩ |
      ⟨before, core, after, rfl, hcore, hblank, -⟩)
    · exact ⟨before, core, after, rfl, hcore, fun c hc => Or.inl (hbefore c hc),
        fun c hc => Or.inl (hafter c hc)⟩
    · exact ⟨before, core, after, rfl, hcore, fun c hc => hblank c (List.mem_append_left _ hc),
        fun c hc => hblank c (List.mem_append_right _ hc)⟩

/-- A text with a literal in it is not blank. -/
theorem not_blank_of_surrounded (h : Surrounded (· ∈ scriptBlanks) cs) :
    ¬ ∀ c ∈ cs, c ∈ scriptBlanks := by
  obtain ⟨before, core, after, rfl, hcore, -, -⟩ := h
  intro hall
  cases core with
  | nil => exact Decimal.not_numberLiteral_nil hcore
  | cons c core =>
    have hc : c ∈ before ++ c :: core ++ after := by simp
    exact Decimal.not_visible_of_mem (hall c hc) (hcore.visible c List.mem_cons_self)

/-- Scripts have no use for U+0085: it neither is a blank nor stands in a
literal. -/
theorem not_mem_of_converts (h : Converts cs) : '\u0085' ∉ cs := by
  have hblank : '\u0085' ∉ scriptBlanks := by decide
  rcases h with hall | ⟨before, core, after, rfl, hcore, hbefore, hafter⟩
  · exact fun hc => hblank (hall _ hc)
  · intro hc
    rcases List.mem_append.mp hc with hc | hc
    · rcases List.mem_append.mp hc with hc | hc
      · exact hblank (hbefore _ hc)
      · exact not_visible_of_mem_or (Or.inr rfl) (hcore.visible _ hc)
    · exact hblank (hafter _ hc)

theorem NextLineAround.mem (h : NextLineAround cs) : '\u0085' ∈ cs := by
  obtain ⟨before, core, after, rfl, -, -, hnext⟩ := h
  rcases List.mem_append.mp hnext with hnext | hnext
  · exact List.mem_append_left _ (List.mem_append_left _ hnext)
  · exact List.mem_append_right _ hnext

/-- A text is shown as a number exactly if scripts convert it to one and it is
not blank, or if it is a literal with U+0085 among the blanks around it; and
such a text scripts do not convert.  What scripts convert is what the grammar of
literals derives. -/
theorem isNumeric_iff_converts (text : String) :
    (isNumeric text = true ↔
      (Converts text.toList ∧ ¬ ∀ c ∈ text.toList, c ∈ scriptBlanks) ∨
        NextLineAround text.toList) ∧
    (NextLineAround text.toList → ¬ Converts text.toList) ∧
    ((Decimal.ofText? text).isSome = true ↔ Converts text.toList) := by
  refine ⟨?_, ?_, Decimal.isSome_ofText? text⟩
  · rw [isNumeric_iff_surrounded, surrounded_iff]
    apply or_congr_left
    constructor
    · exact fun h => ⟨Or.inr h, not_blank_of_surrounded h⟩
    · rintro ⟨hall | h, hnot⟩
      · exact absurd hall hnot
      · exact h
  · exact fun h hconverts => not_mem_of_converts hconverts h.mem

/-- A one behind U+0085 is shown as a number, but scripts convert it to none. -/
theorem one_behind_next_line : ¬ (isNumeric "\u00851" = true ↔
    (Decimal.ofText? "\u00851").isSome = true ∧ ¬ ∀ c ∈ "\u00851".toList, c ∈ scriptBlanks) := by
  have hshown : isNumeric "\u00851" = true := by decide +kernel
  have hnone : (Decimal.ofText? "\u00851").isSome = false := by decide +kernel
  rw [hshown, hnone]
  simp

end Playpen.Display
