import Playpen.Proofs.Except
import Playpen.Proofs.Linking.Literals
import Playpen.Sandbox

/-!
# What a module asks for

A module asks for others by literals, in its imports and in its exports from
elsewhere.  The scanner looks for them in the transpiler's tree (`scanned`), the
engine in its own (`linked`), and it asks for what it reads in them, each once
(`mem_requests_moduleOf`).  A statement asks for the same module in both
(`importedBy_eq`), and where both readers accept a text they have read one tree
from it (`program_eq`).  So what is linked is what has been scanned, statement
by statement (`linked_eq_scanned`).
-/

namespace Playpen

open Script (Stmt Written)
open Playpen.Text (Wide)

/-! ## What is scanned -/

namespace Dependency

theorem mem_distinct {xs : List String} {x : String} : x ∈ distinct xs ↔ x ∈ xs := by
  have hfold : ∀ acc : List String,
      x ∈ xs.foldl (fun acc x => if acc.contains x then acc else x :: acc) acc ↔
        x ∈ acc ∨ x ∈ xs := by
    induction xs with
    | nil => simp
    | cons y xs ih =>
      intro acc
      rw [List.foldl_cons, ih, List.mem_cons, ← or_assoc]
      refine or_congr_left ?_
      split
      · rename_i hy
        rw [List.contains_iff_mem] at hy
        exact ⟨.inl, fun h => h.elim id fun h => h ▸ hy⟩
      · rw [List.mem_cons, or_comm]
  rw [distinct, List.mem_reverse, hfold]
  simp

/-- The literals by which a module asks for others, in the tree that is searched
for imports. -/
def scanned (text : String) : List Written :=
  match Script.parse moduleMode false text with
  | .ok parsed => parsed.program.stmts.filterMap importedBy
  | .error _ => []

theorem scanned_eq {text : String} {parsed : Script.Parsed}
    (h : Script.parse moduleMode false text = .ok parsed) :
    scanned text = parsed.program.stmts.filterMap importedBy := by
  unfold scanned
  rw [h]

/-- What is scanned is read first. -/
theorem exists_of_scanImports {url text : String} {specifiers : List String}
    (h : scanImports url text = .ok specifiers) :
    ∃ parsed, Script.parse moduleMode false text = .ok parsed := by
  unfold scanImports at h
  split at h
  · cases h
  · rename_i parsed hparsed
    exact ⟨parsed, hparsed⟩

theorem specifiers_eq {url text : String} {specifiers : List String}
    (h : scanImports url text = .ok specifiers) :
    specifiers = distinct ((scanned text).map Written.handed) := by
  obtain ⟨parsed, hparsed⟩ := exists_of_scanImports h
  unfold scanImports at h
  rw [hparsed] at h
  rw [scanned_eq hparsed]
  dsimp only at h
  split at h
  · exact (Except.ok.inj h).symm
  · cases h

end Dependency

/-! ## What is linked -/

namespace Engine

namespace Compile

/-- The literal by which a statement asks for a module. -/
def source? : Stmt → Option Written
  | .imports _ source _ => some source
  | .exportNames _ source => source
  | .exportAll _ source => some source
  | _ => none

deriving instance ReflBEq, LawfulBEq for Wide

theorem mem_request {p : ModuleParts} {v w : Wide} :
    w ∈ (p.request v).requests ↔ w ∈ p.requests ∨ v = w := by
  unfold ModuleParts.request
  split
  · rename_i hv
    rw [List.contains_iff_mem] at hv
    exact ⟨.inl, fun h => h.elim id fun h => h ▸ hv⟩
  · rw [List.mem_append, List.mem_singleton]
    exact or_congr_right eq_comm

/-- A statement adds what it asks for. -/
theorem mem_modulePart {p : ModuleParts} {s : Stmt} {w : Wide} :
    w ∈ (modulePart p s).requests ↔ w ∈ p.requests ∨ ∃ l, source? s.bare = some l ∧ l.wide = w := by
  unfold modulePart
  generalize s.bare = s
  have hasks : ∀ {q : ModuleParts} (l : Written), q.requests = (p.request l.wide).requests →
      source? s = some l →
        (w ∈ q.requests ↔ w ∈ p.requests ∨ ∃ l, source? s = some l ∧ l.wide = w) := by
    intro q l hq hl
    rw [hq, mem_request, hl]
    simp
  have hsilent : ∀ {q : ModuleParts}, q.requests = p.requests → source? s = none →
      (w ∈ q.requests ↔ w ∈ p.requests ∨ ∃ l, source? s = some l ∧ l.wide = w) := by
    intro q hq hl
    rw [hq, hl]
    simp
  cases s with
  | imports items source attributes => exact hasks source rfl rfl
  | exportNames items source =>
    cases source with
    | none => exact hsilent rfl rfl
    | some source => exact hasks source rfl rfl
  | exportAll name source => cases name <;> exact hasks source rfl rfl
  | exportDecl s =>
    refine hsilent ?_ rfl
    dsimp only
    split <;> rfl
  | _ => exact hsilent rfl rfl

theorem mem_requests (stmts : List Stmt) (p : ModuleParts) (w : Wide) :
    w ∈ (stmts.foldl modulePart p).requests ↔
      w ∈ p.requests ∨ ∃ l ∈ stmts.filterMap (source? ·.bare), l.wide = w := by
  induction stmts generalizing p with
  | nil => simp
  | cons s stmts ih =>
    rw [List.foldl_cons, ih, mem_modulePart, or_assoc]
    refine or_congr_right ?_
    simp only [List.mem_filterMap, List.mem_cons]
    constructor
    · rintro (⟨l, hl, hw⟩ | ⟨l, ⟨t, ht, hl⟩, hw⟩)
      · exact ⟨l, ⟨s, .inl rfl, hl⟩, hw⟩
      · exact ⟨l, ⟨t, .inr ht, hl⟩, hw⟩
    · rintro ⟨l, ⟨t, rfl | ht, hl⟩, hw⟩
      · exact .inl ⟨l, hl, hw⟩
      · exact .inr ⟨l, ⟨t, ht, hl⟩, hw⟩

end Compile

/-- The literals by which a module asks for others, in the engine's tree. -/
def linked (text : String) : List Written :=
  match Source.moduleTree text with
  | .ok (p, _) => p.stmts.filterMap (Compile.source? ·.bare)
  | .error _ => []

theorem linked_eq {text : String} {p : Script.Program} {s : Script.ParseState}
    (h : Source.moduleTree text = .ok (p, s)) :
    linked text = p.stmts.filterMap (Compile.source? ·.bare) := by
  unfold linked
  rw [h]

/-- A module asks for what the engine reads in these literals. -/
theorem mem_requests_moduleOf {text : String} {p : Script.Program} {s : Script.ParseState}
    (h : Source.moduleTree text = .ok (p, s)) (url : String) (origin : Origin)
    (index counter : Nat) (w : Wide) :
    w ∈ (Compile.moduleOf origin url index counter p).1.requests ↔ ∃ l ∈ linked text, l.wide = w := by
  rw [linked_eq h]
  show w ∈ (p.stmts.foldl Compile.modulePart .none).requests ↔ _
  rw [Compile.mem_requests]
  simp [Compile.ModuleParts.none]

end Engine

/-! ## What is scanned is linked -/

/-- A statement asks for the same module in both trees, whatever comments stand
before it. -/
theorem Dependency.importedBy_eq (s : Stmt) : importedBy s = Engine.Compile.source? s.bare := by
  unfold importedBy
  cases s.bare with
  | exportNames items source => cases source <;> rfl
  | _ => rfl

/-- What the transpiler accepts, it has read to the end. -/
theorem Script.exists_of_parse {m : Script.Lexer.Mode} {inFunction : Bool} {text : String}
    {parsed : Script.Parsed} (h : Script.parse m inFunction text = .ok parsed) :
    ∃ s, Script.program (Script.startState m inFunction text) = .ok parsed.program s := by
  unfold Script.parse at h
  dsimp only [bind, EStateM.bind] at h
  cases hprogram : Script.program (Script.startState m inFunction text) with
  | error c s =>
    rw [hprogram] at h
    cases h
  | ok p s =>
    rw [hprogram] at h
    dsimp only at h
    cases hcovers : Script.coverComplaints s with
    | error c s' =>
      rw [hcovers] at h
      cases h
    | ok _ s' =>
      rw [hcovers] at h
      dsimp only [pure, EStateM.pure] at h
      split at h
      · cases h
        exact ⟨s, rfl⟩
      · cases h

namespace Engine.Source

/-- What the engine accepts, it has not refused on the way. -/
theorem asEngine_ok {α : Type} {p : Script.Parse α} {s s' : Script.ParseState} {a : α}
    (h : asEngine p s = .ok a s') : p s = .ok a s' ∧ s'.refused = none := by
  unfold asEngine at h
  dsimp only at h
  split at h
  · cases h
  · rename_i hrefused
    rw [h] at hrefused
    exact ⟨h, hrefused⟩

/-- A module's tree is what has been read for both of its readers. -/
theorem exists_of_moduleTree {text : String} {p : Script.Program} {s : Script.ParseState}
    (h : moduleTree text = .ok (p, s)) :
    ∃ s', Script.program (Script.startState (mode true) false text) = .ok p s' := by
  obtain ⟨⟨p', s'⟩, hread, hfault⟩ := bind_eq_ok.mp h
  dsimp only at hfault
  split at hfault
  · cases hfault
  · cases hfault
    unfold read at hread
    dsimp only at hread
    split at hread
    · rename_i p' s' hengine
      split at hread
      · cases hread
      · cases hread
        exact ⟨s, (asEngine_ok hengine).1⟩
    · cases hread

end Engine.Source

/-- Both readers of a module that both accept have read one tree from it. -/
theorem program_eq {text : String} {p : Script.Program} {s : Script.ParseState}
    {parsed : Script.Parsed} (hread : Engine.Source.moduleTree text = .ok (p, s))
    (hscan : Script.parse Dependency.moduleMode false text = .ok parsed) : p = parsed.program := by
  obtain ⟨s₁, hengine⟩ := Engine.Source.exists_of_moduleTree hread
  obtain ⟨s₂, hscanner⟩ := Script.exists_of_parse hscan
  cases hengine.symm.trans hscanner
  rfl

/-- Statement by statement, what is linked is what has been scanned. -/
theorem linked_eq_scanned {url text : String} {specifiers : List String} {p : Script.Program}
    {s : Script.ParseState} (hscan : Dependency.scanImports url text = .ok specifiers)
    (hread : Engine.Source.moduleTree text = .ok (p, s)) :
    Engine.linked text = Dependency.scanned text := by
  obtain ⟨parsed, hparsed⟩ := Dependency.exists_of_scanImports hscan
  rw [Engine.linked_eq hread, Dependency.scanned_eq hparsed, program_eq hread hparsed]
  exact List.filterMap_congr fun s _ => (Dependency.importedBy_eq s).symm

/-- A literal with no half kept apart stands for the specifier that is reported
for it. -/
theorem display_mem_specifiers {url text : String} {specifiers : List String} {p : Script.Program}
    {s : Script.ParseState} {l : Written}
    (hscan : Dependency.scanImports url text = .ok specifiers)
    (hread : Engine.Source.moduleTree text = .ok (p, s)) (hl : l ∈ Engine.linked text)
    (hwhole : l.isTorn = false) : l.wide.display ∈ specifiers := by
  rw [linked_eq_scanned hscan hread] at hl
  rw [Dependency.specifiers_eq hscan, Dependency.mem_distinct, ← Written.handed_eq_display hwhole]
  exact List.mem_map_of_mem hl

end Playpen
