import Playpen.Dependency.Basic
import Playpen.Proofs.Text.Pieces

/-!
# What a spec asks for

A spec is a name, or a name and a version with an `@` between them.  A scoped
name begins with an `@` of its own, so the `@` that counts is the last one, and
never the first character.  `Divides` says so without a search; the search for
the last `@` finds the one division there is (`cutSpec_eq_iff`).

The main statement is `parseSpec_reads`: which specs are read, as what, and that
a name and a version that were read once are read from their own spec again.
-/

namespace Playpen.Dependency

open Playpen.Text (isWhiteSpace trimBy Stops)

/-! ## Name and version -/

/-- How a text without blanks around it gives a name and a version. -/
inductive Divides : List Char → List Char → List Char → Prop
  | versioned {name version : List Char} (hname : name ≠ []) (hversion : '@' ∉ version) :
      Divides (name ++ '@' :: version) name version
  | bare {name : List Char} (h : '@' ∉ name.tail) : Divides name name "latest".toList

/-- A name and a version that can be asked for. -/
structure Askable (name version : List Char) : Prop where
  name_ne_nil : name ≠ []
  name_ne_at : name ≠ ['@']
  slash_of_scoped : name.head? = some '@' → '/' ∈ name
  version_ne_nil : version ≠ []
  name_solid : ∀ c ∈ name, isWhiteSpace c = false
  version_solid : ∀ c ∈ version, isWhiteSpace c = false

/-- The text inside the blanks at both ends. -/
def Trims (spec text : String) : Prop :=
  ∃ before after, spec.toList = before ++ text.toList ++ after ∧
    (∀ c ∈ before, isWhiteSpace c = true) ∧ (∀ c ∈ after, isWhiteSpace c = true) ∧
    Stops isWhiteSpace text.toList ∧ Stops isWhiteSpace text.toList.reverse

/-- What a spec asks for. -/
def Asks (text name version : String) : Prop :=
  Divides text.toList name.toList version.toList ∧ Askable name.toList version.toList

/-! ## The last `@` -/

section

variable {cs name version : List Char}

theorem cutLastAt_append (h : '@' ∉ version) :
    cutLastAt (name ++ '@' :: version) = some (name, version) := by
  have hreverse : (name ++ '@' :: version).reverse = version.reverse ++ '@' :: name.reverse := by simp
  have hsolid : ∀ c ∈ version.reverse, decide (c ≠ '@') = true := by
    intro c hc
    rw [decide_eq_true_iff]
    rintro rfl
    exact h (List.mem_reverse.mp hc)
  have hstops : Stops (fun c => decide (c ≠ '@')) ('@' :: name.reverse) :=
    Text.stops_cons.mpr (by decide)
  unfold cutLastAt
  rw [hreverse, Text.takeWhile_append_of_stops hsolid hstops, List.reverse_reverse]
  have hlength : (name ++ '@' :: version).length - version.length - 1 = name.length := by
    rw [List.length_append, List.length_cons]
    omega
  have hlonger : version.length ≠ (name ++ '@' :: version).length := by
    rw [List.length_append, List.length_cons]
    omega
  dsimp only
  rw [if_neg hlonger, hlength, List.take_left]

theorem cutLastAt_of_not_mem (h : '@' ∉ cs) : cutLastAt cs = none := by
  have hall : cs.reverse.takeWhile (fun c => decide (c ≠ '@')) = cs.reverse := by
    rw [List.takeWhile_eq_self_iff]
    intro c hc
    rw [decide_eq_true_iff]
    rintro rfl
    exact h (List.mem_reverse.mp hc)
  unfold cutLastAt
  rw [hall, List.reverse_reverse, if_pos rfl]

theorem exists_last_at (h : '@' ∈ cs) :
    ∃ name version, cs = name ++ '@' :: version ∧ '@' ∉ version := by
  obtain ⟨after, before, hreverse, hafter⟩ := List.eq_append_cons_of_mem (List.mem_reverse.mpr h)
  refine ⟨before.reverse, after.reverse, ?_, fun hmem => hafter (List.mem_reverse.mp hmem)⟩
  rw [← List.reverse_reverse cs, hreverse]
  simp

/-! ## The division -/

theorem cutSpec_scoped (rest : List Char) : cutSpec ('@' :: rest) =
    ((cutLastAt rest).map fun cut => ('@' :: cut.1, cut.2)).getD ('@' :: rest, "latest".toList) := by
  rw [cutSpec]
  cases cutLastAt rest with
  | none => rfl
  | some cut => rfl

theorem cutSpec_plain {c : Char} (hc : c ≠ '@') (rest : List Char) :
    cutSpec (c :: rest) = (cutLastAt (c :: rest)).getD (c :: rest, "latest".toList) := by
  rw [cutSpec]
  · exact List.cons_ne_nil c rest
  · rintro rest' heq
    exact hc (List.cons.inj heq).1

theorem Divides.cutSpec_eq (h : Divides cs name version) : cutSpec cs = (name, version) := by
  cases h with
  | versioned hname hversion =>
    obtain ⟨c, rest, rfl⟩ := List.exists_cons_of_ne_nil hname
    by_cases hc : c = '@'
    · subst hc
      rw [List.cons_append, cutSpec_scoped, cutLastAt_append hversion]
      rfl
    · rw [List.cons_append, cutSpec_plain hc, ← List.cons_append, cutLastAt_append hversion]
      rfl
  | bare hbare =>
    cases cs with
    | nil => rfl
    | cons c rest =>
      by_cases hc : c = '@'
      · subst hc
        have hrest : '@' ∉ rest := hbare
        rw [cutSpec_scoped, cutLastAt_of_not_mem hrest]
        rfl
      · have hnone : '@' ∉ c :: rest := by
          rintro (_ | ⟨_, hmem⟩)
          · exact hc rfl
          · exact hbare hmem
        rw [cutSpec_plain hc, cutLastAt_of_not_mem hnone]
        rfl

theorem Divides.not_mem (h : Divides cs name version) : '@' ∉ version := by
  cases h with
  | versioned _ hversion => exact hversion
  | bare _ => decide

theorem exists_divides (cs : List Char) : ∃ name version, Divides cs name version := by
  by_cases h : '@' ∈ cs.tail
  · cases cs with
    | nil => cases h
    | cons c rest =>
      obtain ⟨name, version, hrest, hversion⟩ := exists_last_at h
      refine ⟨c :: name, version, ?_⟩
      rw [List.tail_cons] at hrest
      rw [hrest, ← List.cons_append]
      exact .versioned (List.cons_ne_nil c name) hversion
  · exact ⟨cs, _, .bare h⟩

/-- The search finds the one division there is. -/
theorem cutSpec_eq_iff : cutSpec cs = (name, version) ↔ Divides cs name version := by
  refine ⟨fun h => ?_, Divides.cutSpec_eq⟩
  obtain ⟨name', version', hdivides⟩ := exists_divides cs
  rw [hdivides.cutSpec_eq] at h
  cases h
  exact hdivides

/-! ## What may be asked for -/

theorem any_isWhiteSpace_iff : cs.any isWhiteSpace = false ↔ ∀ c ∈ cs, isWhiteSpace c = false := by
  simp

theorem isPackageName_and_isVersion_iff :
    (isPackageName name && isVersion version) = true ↔ Askable name version := by
  unfold isPackageName isVersion
  simp only [Bool.and_eq_true, Bool.not_eq_true', any_isWhiteSpace_iff, List.isEmpty_eq_false_iff,
    Bool.or_eq_true, bne_iff_ne, List.contains_iff_mem]
  constructor
  · rintro ⟨⟨⟨hname, hscoped⟩, hsolid⟩, hversion, hsolid'⟩
    refine ⟨hname, ?_, fun hat => hscoped.resolve_left (not_not.mpr hat), hversion, hsolid, hsolid'⟩
    -- a lone `@` is scoped, and has no slash
    rintro rfl
    exact hscoped.elim (fun h => h rfl) (by decide)
  · intro h
    exact ⟨⟨⟨h.name_ne_nil, or_iff_not_imp_left.mpr fun hat => h.slash_of_scoped (not_not.mp hat)⟩,
      h.name_solid⟩, h.version_ne_nil, h.version_solid⟩

end

/-! ## Specs -/

theorem trims_iff {spec text : String} :
    Trims spec text ↔ text = String.ofList (trimBy isWhiteSpace spec.toList) := by
  constructor
  · rintro ⟨before, after, hspec, hbefore, hafter, hfirst, hlast⟩
    rw [hspec, Text.trimBy_append_of_stops hbefore hfirst hlast hafter, String.ofList_toList]
  · rintro rfl
    obtain ⟨before, after, hspec, hbefore, hafter⟩ := Text.exists_trimBy isWhiteSpace spec.toList
    rw [Trims, String.toList_ofList]
    exact ⟨before, after, hspec, hbefore, hafter, Text.stops_trimBy _ _, Text.stops_reverse_trimBy _ _⟩

section

variable {spec text : String} (h : Trims spec text)

include h

theorem parseSpec_eq_ok {name version : String} (hasks : Asks text name version) :
    parseSpec spec = .ok (ofName name version) := by
  obtain ⟨hdivides, haskable⟩ := hasks
  rw [trims_iff.mp h, String.toList_ofList] at hdivides
  unfold parseSpec
  dsimp only
  rw [hdivides.cutSpec_eq]
  dsimp only
  rw [if_pos (isPackageName_and_isVersion_iff.mpr haskable), String.ofList_toList,
    String.ofList_toList]

theorem parseSpec_eq_error (hasks : ¬ ∃ name version, Asks text name version) :
    parseSpec spec = .error (.invalidSpec text) := by
  obtain ⟨name, version, hdivides⟩ := exists_divides text.toList
  have hnot : ¬ Askable name version := by
    intro haskable
    refine hasks ⟨String.ofList name, String.ofList version, ?_⟩
    rw [Asks, String.toList_ofList, String.toList_ofList]
    exact ⟨hdivides, haskable⟩
  rw [trims_iff.mp h, String.toList_ofList] at hdivides
  unfold parseSpec
  dsimp only
  rw [hdivides.cutSpec_eq]
  dsimp only
  rw [if_neg (isPackageName_and_isVersion_iff.not.mpr hnot), trims_iff.mp h]

theorem exists_asks_of_ok {d : Dependency} (hok : parseSpec spec = .ok d) :
    Asks text d.name d.version ∧ d = ofName d.name d.version := by
  by_cases hasks : ∃ name version, Asks text name version
  · obtain ⟨name, version, hasks⟩ := hasks
    rw [parseSpec_eq_ok h hasks] at hok
    cases hok
    exact ⟨hasks, rfl⟩
  · rw [parseSpec_eq_error h hasks] at hok
    cases hok

end

/-- A name and a version that were asked for once can be asked for with an `@`
between them. -/
theorem Asks.spec {text name version : String} (h : Asks text name version) :
    Trims (name ++ "@" ++ version) (name ++ "@" ++ version) ∧
      Asks (name ++ "@" ++ version) name version := by
  obtain ⟨hdivides, haskable⟩ := h
  have hchars : (name ++ "@" ++ version).toList = name.toList ++ '@' :: version.toList := by simp
  have hversion : '@' ∉ version.toList := hdivides.not_mem
  have hsolid : ∀ c ∈ name.toList ++ '@' :: version.toList, isWhiteSpace c = false := by
    intro c hc
    rcases List.mem_append.mp hc with hc | hc
    · exact haskable.name_solid c hc
    · rcases List.mem_cons.mp hc with rfl | hc
      · decide
      · exact haskable.version_solid c hc
  refine ⟨⟨[], [], by simp, by simp, by simp, ?_, ?_⟩, ?_, haskable⟩
  · rw [hchars]
    exact fun c hc => hsolid c (List.mem_of_mem_head? hc)
  · rw [hchars]
    exact fun c hc => hsolid c (List.mem_reverse.mp (List.mem_of_mem_head? hc))
  · rw [hchars]
    exact .versioned haskable.name_ne_nil hversion

/-- What a spec asks for is read off the text inside its blanks: it is what is
read, and a spec that asks for nothing is refused with that text.  The name and
the version that were read, with an `@` between them, are a spec of the same. -/
theorem parseSpec_reads (spec : String) :
    ∃ text, (∀ t, Trims spec t ↔ t = text) ∧
      (∀ name version, (∃ d, parseSpec spec = .ok d ∧ d.name = name ∧ d.version = version) ↔
        Asks text name version) ∧
      ((¬ ∃ name version, Asks text name version) →
        parseSpec spec = .error (.invalidSpec text)) ∧
      ∀ d, parseSpec spec = .ok d →
        d = ofName d.name d.version ∧ parseSpec (d.name ++ "@" ++ d.version) = .ok d := by
  obtain ⟨text, htrims⟩ : ∃ text, Trims spec text := ⟨_, trims_iff.mpr rfl⟩
  refine ⟨text, fun t => ?_, fun name version => ⟨?_, fun hasks => ?_⟩, parseSpec_eq_error htrims,
    fun d hok => ?_⟩
  · rw [trims_iff, ← trims_iff.mp htrims]
  · rintro ⟨d, hok, rfl, rfl⟩
    exact (exists_asks_of_ok htrims hok).1
  · exact ⟨_, parseSpec_eq_ok htrims hasks, rfl, rfl⟩
  · obtain ⟨hasks, hd⟩ := exists_asks_of_ok htrims hok
    obtain ⟨htrims', hasks'⟩ := hasks.spec
    exact ⟨hd, (parseSpec_eq_ok htrims' hasks').trans (congrArg _ hd.symm)⟩

example : parseSpec "\u00A0@scope/lib@2.0.1\t" = .ok (ofName "@scope/lib" "2.0.1") := by decide +kernel

example : parseSpec "a@b@" = .error (.invalidSpec "a@b@") := by decide +kernel

end Playpen.Dependency
