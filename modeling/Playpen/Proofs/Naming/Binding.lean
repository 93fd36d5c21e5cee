import Playpen.Proofs.Naming.Parameters

/-!
# Dependencies among the parameters of a script

A script is the body of a function whose parameters are the console and the
dependencies.  Every character of a dependency's identifier goes on in a name,
or is one that no token begins with; so a list of parameters is either read as
it is meant or not at all.
-/

namespace Playpen.Dependency

open Playpen.Script (Stumbles)
open Playpen.Text (isAlphanumeric isIdStart isIdContinue isNumber isDigit goesOn spaces)

/-! ## What identifiers are made of -/

/-- A character above U+007F that is no space. -/
def High (c : Char) : Prop := 128 ≤ c.toNat ∧ ∀ s ∈ spaces, ¬ (s.1 ≤ c.toNat ∧ c.toNat ≤ s.2)

/-- A character that is kept begins a name, or is a digit, or lies above
U+007F and is no space. -/
theorem isNameChar_cases {c : Char} (h : isNameChar c = true) :
    startsName c = true ∨ isDigit c = true ∨ High c := by
  rw [isNameChar, Bool.or_eq_true, Bool.or_eq_true, decide_eq_true_iff, decide_eq_true_iff] at h
  rcases h with (halnum | rfl) | rfl
  · by_cases hc : c.toNat < 128
    · rw [isAlphanumeric, if_pos hc, Bool.or_eq_true] at halnum
      rcases halnum with hletter | hdigit
      · left
        rw [startsName, isIdStart, if_pos hc, hletter]
        rfl
      · exact Or.inr (Or.inl hdigit)
    · refine Or.inr (Or.inr ⟨Nat.le_of_not_lt hc, fun s hs hin => ?_⟩)
      have hnot : isAlphanumeric c = false :=
        (Text.alphanumeric.holds_eq c).trans (Text.spacesOffWords.has hs hin.1 hin.2)
      rw [hnot] at halnum
      cases halnum
  · exact Or.inl rfl
  · exact Or.inl rfl

theorem low_of_isDigit {c : Char} (h : isDigit c = true) : c.toNat < 128 := by
  have : c.toNat ≤ 57 := (of_decide_eq_true h).2
  omega

theorem goesOn_of_isDigit {c : Char} (h : isDigit c = true) : goesOn c = true := by
  rw [goesOn, isIdContinue, if_pos (low_of_isDigit h), h, Bool.or_true, Bool.true_or, Bool.true_or]

theorem isNameChar_goesOn_or {c : Char} (h : isNameChar c = true) : goesOn c = true ∨ High c := by
  rcases isNameChar_cases h with hstart | hdigit | hhigh
  · exact Or.inl (Script.goesOn_of_startsName hstart)
  · exact Or.inl (goesOn_of_isDigit hdigit)
  · exact Or.inr hhigh

theorem camelCase_goesOn_or :
    ∀ (gap : Bool) (cs : List Char), ∀ d ∈ camelCase true gap cs, goesOn d = true ∨ High d
  | gap, [], d, hd => by cases hd
  | gap, c :: cs, d, hd => by
      rw [camelCase] at hd
      split at hd
      · rename_i hkept
        rcases List.mem_append.mp hd with hfirst | hlater
        · split at hfirst
          · rcases Text.upper_cases hfirst with rfl | ⟨-, hgoes⟩ | ⟨-, -, hcircled⟩
            · exact isNameChar_goesOn_or hkept
            · exact Or.inl hgoes
            · refine Or.inr ⟨Nat.le_trans (by decide) hcircled.1, fun s hs hin => ?_⟩
              have hall : ∀ s ∈ spaces, s.2 < 9398 ∨ 9449 < s.1 := by decide
              have := hall s hs
              have := hcircled.2
              have := hcircled.1
              omega
          · rw [List.mem_singleton.mp hfirst]
            exact isNameChar_goesOn_or hkept
        · exact camelCase_goesOn_or false cs d hlater
      · exact camelCase_goesOn_or true cs d hd

/-- What begins well is an identifier, unless a character further on is none
that goes on. -/
theorem stumbles_of_goesOn_or {name : String} {c : Char} {cs : List Char} (hcs : name.toList = c :: cs)
    (hc : startsName c = true ∨ High c) (hall : ∀ d ∈ cs, goesOn d = true ∨ High d) :
    IsIdentifier name ∨ Stumbles name := by
  by_cases hstart : startsName c = true
  · cases htail : cs.dropWhile goesOn with
    | nil =>
      exact Or.inl ⟨c, cs, hcs, hstart, List.dropWhile_eq_nil_iff.mp htail⟩
    | cons d rest =>
      have hd : goesOn d = false := by
        have := List.head_dropWhile_not goesOn (htail ▸ List.cons_ne_nil d rest)
        simpa [htail] using this
      have hmem : d ∈ cs := (List.dropWhile_sublist _).subset (htail ▸ List.mem_cons_self)
      have hhigh := (hall d hmem).resolve_left (by rw [hd]; exact Bool.false_ne_true)
      have hnot : startsName d = false := by
        rw [Bool.eq_false_iff]
        intro hstarts
        rw [Script.goesOn_of_startsName hstarts] at hd
        cases hd
      refine Or.inr (Or.inr ⟨String.ofList (c :: cs.takeWhile goesOn), d, rest, ?_, ?_,
        ⟨hhigh.1, hhigh.2, hnot⟩, hd⟩)
      · rw [String.toList_ofList, hcs, List.cons_append, ← htail, List.takeWhile_append_dropWhile]
      · exact isIdentifier_cons.mpr ⟨hstart, fun d hd => List.mem_takeWhile_imp hd⟩
  · have hhigh := hc.resolve_left hstart
    exact Or.inr (Or.inl ⟨c, cs, hcs, hhigh.1, hhigh.2, Bool.eq_false_iff.mpr hstart⟩)

theorem bindingIdentifier_stumbles (name : String) :
    IsIdentifier (bindingIdentifier name) ∨ Stumbles (bindingIdentifier name) := by
  have hshape : bindingIdentifier name =
      String.ofList (if needsUnderscore (camelCase false false (unscoped name.toList))
        then '_' :: camelCase false false (unscoped name.toList)
        else camelCase false false (unscoped name.toList)) := rfl
  rcases camelCase_start false (unscoped name.toList) with ⟨-, hcamel⟩ | ⟨c, rest, hkept, hcamel⟩
  · rw [hshape, hcamel]
    exact Or.inl (isIdentifier_underscore.mpr fun d hd => absurd hd List.not_mem_nil)
  · have hc : isNameChar c = true := by
      have hmem : c ∈ (unscoped name.toList).filter isNameChar := hkept ▸ List.mem_cons_self
      exact (List.mem_filter.mp hmem).2
    have hrest := camelCase_goesOn_or false rest
    rw [hcamel] at hshape
    by_cases hunderscore : needsUnderscore (c :: camelCase true false rest) = true
    · rw [if_pos hunderscore] at hshape
      have htext := congrArg String.toList hshape
      rw [String.toList_ofList] at htext
      exact stumbles_of_goesOn_or htext (Or.inl rfl)
        (List.forall_mem_cons.mpr ⟨isNameChar_goesOn_or hc, hrest⟩)
    · rw [if_neg hunderscore] at hshape
      have htext := congrArg String.toList hshape
      rw [String.toList_ofList] at htext
      have hnumber : isNumber c = false := by
        rw [Bool.eq_false_iff]
        exact fun hnumber => hunderscore (needsUnderscore_cons.mpr (Or.inl hnumber))
      refine stumbles_of_goesOn_or htext ?_ hrest
      rcases isNameChar_cases hc with hstart | hdigit | hhigh
      · exact Or.inl hstart
      · rw [isNumber, if_pos (low_of_isDigit hdigit), hdigit] at hnumber
        cases hnumber
      · exact Or.inr hhigh

/-! ## Dependencies as parameters -/

/-- What a script's function calls its parameters. -/
def parameters (names : List String) : List String := "console" :: names.map bindingIdentifier

theorem console_free : IsIdentifier "console" ∧ "console" ∉ reservedWords := by
  obtain ⟨c, rest, hcs, hc, hall⟩ := reserved_word_shape (w := "console") List.mem_cons_self
  exact ⟨⟨c, rest, hcs, hc, fun d hd => hall d (List.mem_cons_of_mem c hd)⟩, by decide⟩

/-- Where each name can stand in an identifier, the list is read as it is meant. -/
theorem read_parameters {names : List String} (hall : ∀ name ∈ names, Bindable name)
    (change : Script.Flags → Script.Flags) :
    ∃ ρ, Engine.Source.read (Engine.Source.mode false) false change
      (",".intercalate (parameters names)) Engine.Source.formals =
        .ok ((parameters names).map .ident, ρ) := by
  refine Script.read_names console_free ?_ change
  intro v hv
  obtain ⟨name, hname, rfl⟩ := List.mem_map.mp hv
  exact ⟨(isIdentifier_bindingIdentifier_iff name).mpr (hall name hname),
    bindingIdentifier_free name⟩

/-- One name that cannot is enough for no function to be made, whatever its body. -/
theorem functionOf_parameters {names : List String} (hsome : ∃ name ∈ names, ¬ Bindable name) :
    ∃ text, ∀ body, Engine.Source.functionOf false false (",".intercalate (parameters names)) body =
      .error ("failed to parse function parameters: " ++ text) := by
  obtain ⟨name, hname, hnot⟩ := hsome
  have hstumbles : ∃ v ∈ names.map bindingIdentifier, Script.Stumbles v := by
    refine ⟨_, List.mem_map_of_mem hname, (bindingIdentifier_stumbles name).resolve_left ?_⟩
    exact fun h => hnot ((isIdentifier_bindingIdentifier_iff name).mp h)
  have hall : ∀ v ∈ names.map bindingIdentifier,
      (IsIdentifier v ∨ Script.Stumbles v) ∧ v ∉ reservedWords := by
    intro v hv
    obtain ⟨name, -, rfl⟩ := List.mem_map.mp hv
    exact ⟨bindingIdentifier_stumbles name, bindingIdentifier_free name⟩
  obtain ⟨text, hread⟩ := Script.read_stumbles console_free hall hstumbles
    fun f => { f with async := false, generator := false }
  refine ⟨text, fun body => ?_⟩
  show Engine.Source.functionOf false false (",".intercalate ("console" :: _)) body = _
  rw [Engine.Source.functionOf]
  dsimp only
  rw [hread]
  rfl

/-- No dependency is bound under a word that cannot be bound.  What is kept of
its name decides whether it is bound under an identifier, and a list of
parameters is read exactly when each of them is one. -/
theorem parameters_read (names : List String) :
    (∀ name ∈ names, bindingIdentifier name ∉ "console" :: reservedWords ∧
      (IsIdentifier (bindingIdentifier name) ↔ Bindable name)) ∧
    ((∀ name ∈ names, Bindable name) → ∀ change, ∃ ρ,
      Engine.Source.read (Engine.Source.mode false) false change
        (",".intercalate (parameters names)) Engine.Source.formals =
          .ok ((parameters names).map .ident, ρ)) ∧
    ((∃ name ∈ names, ¬ Bindable name) → ∃ text, ∀ body,
      Engine.Source.functionOf false false (",".intercalate (parameters names)) body =
        .error ("failed to parse function parameters: " ++ text)) :=
  ⟨fun name _ => ⟨bindingIdentifier_not_mem name, isIdentifier_bindingIdentifier_iff name⟩,
    read_parameters, functionOf_parameters⟩

/-- Hyphens and scopes are no obstacle. -/
theorem parameters_read_hyphened :
    (∀ name ∈ ["date-fns", "@scope/lib.js"], Bindable name) ∧ ∃ ρ,
      Engine.Source.read (Engine.Source.mode false) false id "console,dateFns,libJs"
        Engine.Source.formals =
          .ok ([.ident "console", .ident "dateFns", .ident "libJs"], ρ) := by
  have hall : ∀ name ∈ ["date-fns", "@scope/lib.js"], Bindable name := by decide +kernel
  have hlist : parameters ["date-fns", "@scope/lib.js"] = ["console", "dateFns", "libJs"] := by
    decide +kernel
  have h := (parameters_read ["date-fns", "@scope/lib.js"]).2.1 hall id
  rw [hlist] at h
  exact ⟨hall, h⟩

/-- A superscript number is kept, and no identifier has it. -/
theorem superscript_not_bound :
    bindingIdentifier "x²" = "x²" ∧ ¬ IsIdentifier "x²" ∧
    ∃ text, ∀ body, Engine.Source.functionOf false false "console,x²" body =
      .error ("failed to parse function parameters: " ++ text) := by
  have hkept : isNameChar '²' = true := by
    have : isAlphanumeric '²' = true := (Text.alphanumeric.holds_eq '²').trans (by decide +kernel)
    rw [isNameChar, this, Bool.true_or, Bool.true_or]
  have hgoes : goesOn '²' = false := by
    have : isIdContinue '²' = false := (Text.idContinue.holds_eq '²').trans (by decide +kernel)
    rw [goesOn, this]
    rfl
  have hchars : "x²".toList = ['x', '²'] := by decide +kernel
  have hname : bindingIdentifier "x²" = "x²" := by
    have hcamel : camelCase false false ['x', '²'] = ['x', '²'] := by
      simp [camelCase, hkept, show isNameChar 'x' = true by decide]
    have hneeds : needsUnderscore ['x', '²'] = false := by decide +kernel
    show String.ofList (if needsUnderscore (camelCase false false (unscoped "x²".toList)) = true
      then _ else camelCase false false (unscoped "x²".toList)) = _
    rw [hchars, show unscoped ['x', '²'] = ['x', '²'] from rfl, hcamel, hneeds,
      if_neg Bool.false_ne_true, ← hchars, String.ofList_toList]
  have hnot : ¬ IsIdentifier "x²" := by
    rintro ⟨c, rest, hcs, -, hall⟩
    rw [hchars] at hcs
    cases hcs
    rw [hall '²' List.mem_cons_self] at hgoes
    cases hgoes
  have hunbindable : ∃ name ∈ ["x²"], ¬ Bindable name := by
    refine ⟨_, List.mem_cons_self, fun h => hnot ?_⟩
    rw [← hname]
    exact (isIdentifier_bindingIdentifier_iff _).mpr h
  have h := functionOf_parameters hunbindable
  rw [show parameters ["x²"] = ["console", bindingIdentifier "x²"] from rfl, hname] at h
  exact ⟨hname, hnot, h⟩

end Playpen.Dependency
