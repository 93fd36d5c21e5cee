import Playpen.Dependency.Walk
import Playpen.Proofs.Except
import Playpen.Proofs.Table
import Mathlib.Data.List.Nodup

/-!
# Exploring a module graph

What a walk knows of the graph at any moment: the modules it has taken in, the
addresses ahead of it, and how the two hang together.  `Explored` is the
invariant.  Its list of addresses, taken in first and ahead after, is in the
order of discovery, and that order is what makes the invariant carry both
halves at once: every import of a module taken in is somewhere in the list
(closed), and every address but the first was put there by a module before it
(minimal).

Taking in one module keeps the invariant (`Explored.visit`), hence so does a
whole depth (`Tracks.descend`).
-/

namespace Playpen.Dependency

/-! ## Imports between modules

A module is its address and its text. -/

/-- The module `m` imports what lives at `u`. -/
def Imports (m : Url × String) (u : Url) : Prop :=
  ∃ specifiers, scanImports m.1.text m.2 = .ok specifiers ∧
    ∃ s ∈ specifiers, resolveSpecifier m.1 s = .ok u

/-- The module `m` can be read, and each of its specifiers resolves to one of
the addresses `known`. -/
def ImportsWithin (m : Url × String) (known : List String) : Prop :=
  ∃ specifiers, scanImports m.1.text m.2 = .ok specifiers ∧
    ∀ s ∈ specifiers, ∃ u, resolveSpecifier m.1 s = .ok u ∧ u.text ∈ known

theorem ImportsWithin.mono {m : Url × String} {known known' : List String}
    (h : ImportsWithin m known) (hsub : known ⊆ known') : ImportsWithin m known' := by
  obtain ⟨specifiers, hscan, hall⟩ := h
  refine ⟨specifiers, hscan, ?_⟩
  intro s hs
  obtain ⟨u, hu, hmem⟩ := hall s hs
  exact ⟨u, hu, hsub hmem⟩

/-- All addresses met, in order of discovery. -/
def met (modules : List (Url × String)) (ahead : List Url) : List Url :=
  modules.map Prod.fst ++ ahead

/-- Moving the next address to the modules taken in, and putting new ones at
the end, only lengthens the list of addresses met. -/
theorem met_visit (modules : List (Url × String)) (m : Url × String) (rest found : List Url) :
    met (modules ++ [m]) (rest ++ found) = met modules (m.1 :: rest) ++ found := by
  simp [met]

/-- What is known of the graph below `entry` once `modules` have been taken in
and the addresses `ahead` have been met. -/
structure Explored (entry : Url) (limit : Nat) (modules : List (Url × String))
    (ahead : List Url) : Prop where
  first : (met modules ahead).head? = some entry
  distinct : ((met modules ahead).map Url.text).Nodup
  closed : ∀ m ∈ modules, ImportsWithin m ((met modules ahead).map Url.text)
  minimal : ∀ i u, (met modules ahead)[i + 1]? = some u →
    ∃ j m, j ≤ i ∧ modules[j]? = some m ∧ Imports m u
  size : (met modules ahead).length ≤ max limit 1

theorem Explored.start (entry : Url) (limit : Nat) : Explored entry limit [] [entry] where
  first := rfl
  distinct := by simp [met]
  closed m hm := absurd hm List.not_mem_nil
  minimal i u h := by simp [met] at h
  size := Nat.le_max_right limit 1

/-- What holds of the entry, and of all that a module imports if it holds of the
module, holds of all that has been met: by strong induction on the order of
discovery. -/
theorem Explored.induction {entry : Url} {limit : Nat} {modules : List (Url × String)}
    {ahead : List Url} {P : Url → Prop} (h : Explored entry limit modules ahead)
    (hentry : P entry) (himports : ∀ m ∈ modules, P m.1 → ∀ u, Imports m u → P u) :
    ∀ u ∈ met modules ahead, P u := by
  have hindex : ∀ (i : Nat) (u : Url), (met modules ahead)[i]? = some u → P u := by
    intro i
    induction i using Nat.strongRecOn with
    | ind i ih =>
      intro u hu
      cases i with
      | zero =>
        rw [← List.head?_eq_getElem?, h.first] at hu
        cases hu
        exact hentry
      | succ i =>
        obtain ⟨j, m, hj, hm, himport⟩ := h.minimal i u hu
        have hmet : (met modules ahead)[j]? = some m.1 := by
          obtain ⟨hlt, hget⟩ := List.getElem?_eq_some_iff.mp hm
          unfold met
          rw [List.getElem?_append_left (by simpa using hlt), List.getElem?_map, hm]
          rfl
        exact himports m (List.mem_of_getElem? hm) (ih j (by omega) m.1 hmet) u himport
  intro u hu
  obtain ⟨i, hi⟩ := List.mem_iff_getElem?.mp hu
  exact hindex i u hi

/-! ## One module -/

/-- Meeting the imports of a module finds new addresses only, each the
resolution of a specifier, and leaves none of its imports unmet. -/
theorem meet_ok {name : String} {limit : Nat} {referrer : Url} :
    ∀ {specifiers : List String} {seen : List String} {next : List Url}
      {seen' : List String} {next' : List Url},
      Walk.meet name limit referrer specifiers (seen, next) = .ok (seen', next') →
      ∃ found : List Url, seen' = seen ++ found.map Url.text ∧ next' = next ++ found ∧
        (∀ s ∈ specifiers, ∃ u, resolveSpecifier referrer s = .ok u ∧ u.text ∈ seen') ∧
        (∀ u ∈ found, ∃ s ∈ specifiers, resolveSpecifier referrer s = .ok u) ∧
        (seen.Nodup → seen'.Nodup) ∧ (found ≠ [] → seen'.length ≤ limit)
  | [], seen, next, seen', next', h => by
      rw [Walk.meet] at h
      cases h
      exact ⟨[], by simp, by simp, by simp, by simp, id, fun h => absurd rfl h⟩
  | s :: rest, seen, next, seen', next', h => by
      rw [Walk.meet] at h
      obtain ⟨u, hu, h⟩ := bind_eq_ok.mp h
      split at h
      · -- met before: nothing is found here
        rename_i hseen
        obtain ⟨found, rfl, rfl, hall, horigin, hnodup, hlimit⟩ := meet_ok h
        refine ⟨found, rfl, rfl, ?_, ?_, hnodup, hlimit⟩
        · intro s' hs'
          rcases List.mem_cons.mp hs' with rfl | hrest
          · exact ⟨u, hu, List.mem_append_left _ (List.contains_iff_mem.mp hseen)⟩
          · exact hall s' hrest
        · intro u' hu'
          obtain ⟨s', hs', hres⟩ := horigin u' hu'
          exact ⟨s', List.mem_cons_of_mem _ hs', hres⟩
      · rename_i hnew
        split at h
        · cases h
        · rename_i hroom
          obtain ⟨found, rfl, rfl, hall, horigin, hnodup, hlimit⟩ := meet_ok h
          refine ⟨u :: found, by simp, by simp, ?_, ?_, ?_, ?_⟩
          · intro s' hs'
            rcases List.mem_cons.mp hs' with rfl | hrest
            · exact ⟨u, hu, by simp⟩
            · exact hall s' hrest
          · intro u' hu'
            rcases List.mem_cons.mp hu' with rfl | hfound
            · exact ⟨s, List.mem_cons_self, hu⟩
            · obtain ⟨s', hs', hres⟩ := horigin u' hfound
              exact ⟨s', List.mem_cons_of_mem _ hs', hres⟩
          · intro hseen
            apply hnodup
            rw [List.nodup_append]
            refine ⟨hseen, by simp, ?_⟩
            intro a ha b hb hab
            rw [List.mem_singleton] at hb
            subst hab hb
            exact hnew (List.contains_iff_mem.mpr ha)
          · intro _
            cases found with
            | nil =>
              simp
              omega
            | cons v more => exact hlimit (by simp)

/-- Taking in the module at the next address keeps the invariant, with the
addresses it is the first to import at the end. -/
theorem Explored.visit {entry : Url} {limit : Nat} {modules : List (Url × String)}
    {m : Url × String} {rest next next' : List Url} {name : String}
    {specifiers seen' : List String} (h : Explored entry limit modules (m.1 :: rest))
    (hscan : scanImports m.1.text m.2 = .ok specifiers)
    (hmeet : Walk.meet name limit m.1 specifiers
      ((met modules (m.1 :: rest)).map Url.text, next) = .ok (seen', next')) :
    ∃ found, Explored entry limit (modules ++ [m]) (rest ++ found) ∧
      seen' = (met (modules ++ [m]) (rest ++ found)).map Url.text ∧ next' = next ++ found ∧
      (found ≠ [] → seen'.length ≤ limit) := by
  obtain ⟨found, hseen, hnext, hall, horigin, hnodup, hlimit⟩ := meet_ok hmeet
  have hseen' : seen' = (met (modules ++ [m]) (rest ++ found)).map Url.text := by
    rw [met_visit, List.map_append, hseen]
  refine ⟨found, ?_, hseen', hnext, hlimit⟩
  refine { first := ?_, distinct := ?_, closed := ?_, minimal := ?_, size := ?_ }
  · rw [met_visit, List.head?_append, h.first]
    rfl
  · rw [← hseen']
    exact hnodup h.distinct
  · intro m' hm'
    rw [← hseen']
    rcases List.mem_append.mp hm' with hold | hnew
    · refine (h.closed m' hold).mono ?_
      rw [hseen]
      exact List.subset_append_left _ _
    · rw [List.mem_singleton] at hnew
      subst hnew
      exact ⟨specifiers, hscan, hall⟩
  · intro i u hu
    rw [met_visit] at hu
    by_cases hi : i + 1 < (met modules (m.1 :: rest)).length
    · rw [List.getElem?_append_left hi] at hu
      obtain ⟨j, m', hj, hm', himp⟩ := h.minimal i u hu
      refine ⟨j, m', hj, ?_, himp⟩
      rw [List.getElem?_append_left (List.getElem?_eq_some_iff.mp hm').1]
      exact hm'
    · -- a new address: the module that imports it is the one just taken in
      rw [List.getElem?_append_right (by omega)] at hu
      obtain ⟨s, hs, hres⟩ := horigin u (List.mem_of_getElem? hu)
      refine ⟨modules.length, m, ?_, by simp, specifiers, hscan, s, hs, hres⟩
      simp [met] at hi
      omega
  · by_cases hfound : found = []
    · subst hfound
      rw [met_visit, List.append_nil]
      exact h.size
    · have := hlimit hfound
      rw [hseen', List.length_map] at this
      omega

/-! ## A whole depth -/

/-- The walk `w` has taken in `modules`, and met the addresses `ahead`. -/
structure Walk.Tracks (w : Walk) (entry : Url) (limit : Nat) (modules : List (Url × String))
    (ahead : List Url) : Prop where
  explored : Explored entry limit modules ahead
  limit_eq : w.limit = limit
  entry_eq : w.bundle.entry = entry.text
  sources_eq : w.bundle.sources.entries = modules.map fun m => (m.1.text, m.2)
  seen_eq : w.seen = (met modules ahead).map Url.text

theorem Walk.Tracks.start (name : String) (entry : Url) (limit : Nat) :
    (Walk.start name entry limit).Tracks entry limit [] [entry] :=
  ⟨Explored.start entry limit, rfl, rfl, rfl, rfl⟩

/-- An address of the frontier that nobody has asked for. -/
def Wanted.fresh (u : Url) : Wanted := ⟨u, false, none⟩

/-- Taking in the module at the next address. -/
theorem Walk.Tracks.visit {entry : Url} {limit : Nat} {w : Walk} {modules : List (Url × String)}
    {m : Url × String} {rest next next' : List Url} {specifiers seen' : List String}
    (htracks : w.Tracks entry limit modules (m.1 :: (rest ++ next)))
    (hscan : scanImports m.1.text m.2 = .ok specifiers)
    (hmeet : Walk.meet w.name w.limit m.1 specifiers (w.seen, next) = .ok (seen', next')) :
    ∃ found, next' = next ++ found ∧ (found ≠ [] → seen'.length ≤ limit) ∧
      Walk.Tracks { w with seen := seen', bundle := w.bundle.insert m.1.text m.2 } entry limit
        (modules ++ [m]) (rest ++ (next ++ found)) := by
  rw [htracks.limit_eq, htracks.seen_eq] at hmeet
  obtain ⟨found, hexp, hseen', rfl, hroom⟩ := htracks.explored.visit hscan hmeet
  have hfresh : m.1.text ∉ w.bundle.sources.keys := by
    have hnd := htracks.explored.distinct
    rw [met, List.map_append, List.nodup_append] at hnd
    intro hmem
    refine hnd.2.2 m.1.text ?_ m.1.text (by simp) rfl
    unfold Table.keys at hmem
    rw [htracks.sources_eq] at hmem
    simpa using hmem
  refine ⟨found, rfl, hroom, ?_⟩
  rw [← List.append_assoc]
  refine ⟨hexp, htracks.limit_eq, htracks.entry_eq, ?_, hseen'⟩
  show (w.bundle.sources.insert m.1.text m.2).entries = _
  rw [Table.entries_insert_of_not_mem hfresh, htracks.sources_eq, List.map_append]
  rfl

/-- Taking in a depth: its modules join those taken in, what they are the
first to import is the next depth, and unless nothing is found there was room
below the limit. -/
theorem Walk.Tracks.descend {entry : Url} {limit : Nat} :
    ∀ {pages : List (Url × String)} {w w' : Walk} {modules : List (Url × String)}
      {next : List Url},
      w.Tracks entry limit modules (pages.map Prod.fst ++ next) →
      w.descend pages next = .ok w' →
      ∃ found, w'.Tracks entry limit (modules ++ pages) (next ++ found) ∧
        w'.frontier = (next ++ found).map Wanted.fresh ∧
        (found ≠ [] → w'.seen.length ≤ limit)
  | [], w, w', modules, next, htracks, h => by
      rw [Walk.descend] at h
      cases h
      refine ⟨[], ?_, by simp [Wanted.fresh], fun h => absurd rfl h⟩
      rw [List.append_nil, List.append_nil]
      exact ⟨htracks.explored, htracks.limit_eq, htracks.entry_eq, htracks.sources_eq,
        htracks.seen_eq⟩
  | m :: pages, w, w', modules, next, htracks, h => by
      rw [Walk.descend] at h
      obtain ⟨specifiers, hscan, h⟩ := bind_eq_ok.mp h
      obtain ⟨⟨seen', next'⟩, hmeet, h⟩ := bind_eq_ok.mp h
      obtain ⟨found, rfl, hroom, hstep⟩ := htracks.visit hscan hmeet
      obtain ⟨more, htracks', hfrontier, hroom'⟩ := hstep.descend h
      refine ⟨found ++ more, ?_, ?_, ?_⟩
      · rw [← List.append_assoc, List.append_cons]
        exact htracks'
      · rw [hfrontier, List.append_assoc]
      · intro hne
        by_cases hmore : more = []
        · subst hmore
          rw [List.append_nil] at hne htracks'
          have := hroom hne
          have hseen' : seen' = _ := hstep.seen_eq
          rw [htracks'.seen_eq, List.length_map]
          rw [hseen', List.length_map] at this
          simp [met] at this ⊢
          omega
        · exact hroom' hmore

end Playpen.Dependency
