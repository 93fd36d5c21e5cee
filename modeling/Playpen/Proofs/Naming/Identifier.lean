import Playpen.Dependency.Identifier
import Playpen.Proofs.Text.Classes

/-!
# Whether a dependency can be bound

The identifier of a dependency is never a word that scripts may not bind.  It
need not be an identifier, though: what is kept of a name is sorted out by
other classes than those of the script language, and some numbers and letters
are in the former only.  `isIdentifier_bindingIdentifier_iff` says for which
names it is one.

Upper case is no part of the condition, since it leaves neither class
(`Text.goesOn_upper`); the first character is never changed.
-/

namespace Playpen.Dependency

open Playpen.Text (isIdStart isIdContinue isNumber upper goesOn)

/-- A character that may stand first in a name. -/
def startsName (c : Char) : Bool := isIdStart c || c = '$' || c = '_'

/-- An identifier of the script language: ID_Start, `$` or `_`, and then
ID_Continue or `$`. -/
def IsIdentifier (name : String) : Prop :=
  ∃ c rest, name.toList = c :: rest ∧ startsName c = true ∧ ∀ d ∈ rest, goesOn d = true

/-- The characters of a name that are kept. -/
def kept (name : String) : List Char := (unscoped name.toList).filter isNameChar

/-- Whether characters can stand in an identifier.  A number may come first,
since an underscore is put before it. -/
def fits : List Char → Bool
  | [] => true
  | c :: rest => (if isNumber c then goesOn c else startsName c) && rest.all goesOn

theorem fits_cons {c : Char} {rest : List Char} :
    fits (c :: rest) = true ↔
      (if isNumber c then goesOn c else startsName c) = true ∧ ∀ d ∈ rest, goesOn d = true := by
  rw [fits, Bool.and_eq_true, List.all_eq_true]

/-- What is kept of a name can stand in an identifier. -/
def Bindable (name : String) : Prop := fits (kept name) = true

instance (name : String) : Decidable (Bindable name) := inferInstanceAs (Decidable (_ = true))

/-! ## Camel case -/

/-- Behind the first character, what is written goes on exactly when what is
kept does. -/
theorem camelCase_goesOn_iff :
    ∀ (gap : Bool) (cs : List Char),
      (∀ d ∈ camelCase true gap cs, goesOn d = true) ↔
        ∀ c ∈ cs.filter isNameChar, goesOn c = true
  | gap, [] => by simp [camelCase]
  | gap, c :: cs => by
      rw [camelCase]
      split
      · rename_i hkept
        have hword : (∀ d ∈ (if true && gap then upper c else [c]), goesOn d = true) ↔
            goesOn c = true := by
          split
          · constructor
            · intro h
              obtain ⟨d, hd⟩ := List.exists_mem_of_ne_nil _ (Text.upper_ne_nil c)
              rw [← Text.goesOn_upper hd]
              exact h d hd
            · intro h d hd
              rw [Text.goesOn_upper hd]
              exact h
          · simp
        rw [List.forall_mem_append, hword, camelCase_goesOn_iff false cs, List.filter_cons_of_pos hkept,
          List.forall_mem_cons]
      · rename_i hdropped
        rw [camelCase_goesOn_iff true cs, List.filter_cons_of_neg hdropped]

/-- The first character that is kept is written as it is. -/
theorem camelCase_start :
    ∀ (gap : Bool) (cs : List Char),
      (cs.filter isNameChar = [] ∧ camelCase false gap cs = []) ∨
      ∃ c rest, cs.filter isNameChar = c :: rest.filter isNameChar ∧
        camelCase false gap cs = c :: camelCase true false rest
  | gap, [] => Or.inl ⟨rfl, rfl⟩
  | gap, c :: cs => by
      rw [camelCase]
      split
      · rename_i hkept
        exact Or.inr ⟨c, cs, List.filter_cons_of_pos hkept, rfl⟩
      · rename_i hdropped
        rw [List.filter_cons_of_neg hdropped]
        exact camelCase_start true cs

/-! ## Words that cannot be bound -/

/-- The words that an underscore is put before are identifiers. -/
theorem reserved_word_shape {w : String} (hw : w ∈ "console" :: reservedWords) :
    ∃ c rest, w.toList = c :: rest ∧ startsName c = true ∧ ∀ d ∈ c :: rest, goesOn d = true := by
  have hall : ∀ w ∈ "console" :: reservedWords,
      w.toList.head?.any startsName = true ∧ w.toList.all goesOn = true := by decide +kernel
  obtain ⟨hstart, hgoes⟩ := hall w hw
  cases hcs : w.toList with
  | nil =>
    rw [hcs] at hstart
    cases hstart
  | cons c rest =>
    rw [hcs] at hstart hgoes
    exact ⟨c, rest, rfl, hstart, List.all_eq_true.mp hgoes⟩

theorem needsUnderscore_cons {c : Char} {rest : List Char} :
    needsUnderscore (c :: rest) = true ↔
      isNumber c = true ∨ String.ofList (c :: rest) ∈ "console" :: reservedWords := by
  simp [needsUnderscore, or_assoc]

/-- The identifier of a dependency is no word that cannot be bound. -/
theorem bindingIdentifier_not_mem (name : String) :
    bindingIdentifier name ∉ "console" :: reservedWords := by
  show String.ofList _ ∉ _
  generalize camelCase false false (unscoped name.toList) = cs
  by_cases h : needsUnderscore cs = true
  · rw [if_pos h]
    intro hmem
    have hall : ∀ w ∈ "console" :: reservedWords, w.toList.head? ≠ some '_' := by decide +kernel
    apply hall _ hmem
    rw [String.toList_ofList]
    rfl
  · rw [if_neg h]
    intro hmem
    apply h
    cases cs with
    | nil => rfl
    | cons c rest => exact needsUnderscore_cons.mpr (Or.inr hmem)

theorem bindingIdentifier_ne_console (name : String) : bindingIdentifier name ≠ "console" :=
  List.ne_of_not_mem_cons (bindingIdentifier_not_mem name)

theorem bindingIdentifier_free (name : String) : bindingIdentifier name ∉ reservedWords :=
  List.not_mem_of_not_mem_cons (bindingIdentifier_not_mem name)

/-! ## Identifiers -/

theorem isIdentifier_ofList {cs : List Char} :
    IsIdentifier (String.ofList cs) ↔
      ∃ c rest, cs = c :: rest ∧ startsName c = true ∧ ∀ d ∈ rest, goesOn d = true := by
  unfold IsIdentifier
  rw [String.toList_ofList]

theorem isIdentifier_underscore {cs : List Char} :
    IsIdentifier (String.ofList ('_' :: cs)) ↔ ∀ d ∈ cs, goesOn d = true := by
  rw [isIdentifier_ofList]
  constructor
  · rintro ⟨c, rest, hcs, -, hall⟩
    cases hcs
    exact hall
  · intro hall
    exact ⟨'_', cs, rfl, by decide, hall⟩

theorem isIdentifier_cons {c : Char} {cs : List Char} :
    IsIdentifier (String.ofList (c :: cs)) ↔
      startsName c = true ∧ ∀ d ∈ cs, goesOn d = true := by
  rw [isIdentifier_ofList]
  constructor
  · rintro ⟨c', rest, hcs, hstart, hall⟩
    cases hcs
    exact ⟨hstart, hall⟩
  · rintro ⟨hstart, hall⟩
    exact ⟨c, cs, rfl, hstart, hall⟩

/-- A dependency is bound under an identifier exactly when what is kept of its
name can stand in one. -/
theorem isIdentifier_bindingIdentifier_iff (name : String) :
    IsIdentifier (bindingIdentifier name) ↔ Bindable name := by
  show IsIdentifier (String.ofList (if needsUnderscore (camelCase false false (unscoped name.toList))
    then '_' :: camelCase false false (unscoped name.toList)
    else camelCase false false (unscoped name.toList))) ↔ _
  unfold Bindable kept
  rcases camelCase_start false (unscoped name.toList) with
    ⟨hkept, hcamel⟩ | ⟨c, rest, hkept, hcamel⟩
  · rw [hkept, hcamel]
    exact iff_of_true (isIdentifier_underscore.mpr fun d hd => absurd hd List.not_mem_nil) rfl
  · rw [hkept, hcamel]
    rw [fits_cons, ← camelCase_goesOn_iff false rest]
    by_cases hnumber : isNumber c = true
    · rw [if_pos (needsUnderscore_cons.mpr (Or.inl hnumber)), if_pos hnumber,
        isIdentifier_underscore, List.forall_mem_cons]
    · rw [if_neg hnumber]
      by_cases hword : String.ofList (c :: camelCase true false rest) ∈ "console" :: reservedWords
      · obtain ⟨c', rest', hcs, hstart, hall⟩ := reserved_word_shape hword
        rw [String.toList_ofList] at hcs
        rw [← hcs] at hall
        cases hcs
        rw [if_pos (needsUnderscore_cons.mpr (Or.inr hword)), isIdentifier_underscore]
        exact iff_of_true hall ⟨hstart, fun d hd => hall d (List.mem_cons_of_mem c hd)⟩
      · rw [if_neg (fun h => (needsUnderscore_cons.mp h).elim hnumber hword), isIdentifier_cons]

end Playpen.Dependency
