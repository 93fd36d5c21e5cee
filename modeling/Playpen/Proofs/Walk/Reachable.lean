import Playpen.Proofs.Url.Reference
import Playpen.Proofs.Walk.Exploration
import Mathlib.Data.Set.Card

/-!
# The graph below an entry

A network that is one function from addresses to answers makes a graph of URLs:
the module at one imports others.  `Reachable` is everything below the entry,
whatever any walk has seen of it.

A walk knows URLs by their texts, and of all that are written alike it keeps the
first.  It loses nothing by that, since specifiers stand for the same in each of
them (`resolveSpecifier_text`): an explored graph with nothing ahead has the
address of every URL below the entry (`Explored.covers`).
-/

namespace Playpen.Dependency

/-! ## Specifiers -/

theorem resolveSpecifier_isRead {referrer u : Url} {s : String} (hreferrer : referrer.IsRead)
    (h : resolveSpecifier referrer s = .ok u) : u.IsRead := by
  unfold resolveSpecifier at h
  dsimp only at h
  split at h
  · rename_i v hv
    split at h
    · cases h
      exact .parse hv
    · cases h
  · split at h
    · split at h
      · rename_i v hv
        cases h
        exact .join hreferrer hv
      · cases h
    · split at h
      · cases h
      · split at h
        · rename_i v hv
          cases h
          exact .join hreferrer hv
        · cases h

/-- A specifier stands for the same in modules whose URLs are written alike. -/
theorem resolveSpecifier_text {u v : Url} (hu : u.IsRead) (hv : v.IsRead) (h : u.text = v.text)
    (s : String) : (resolveSpecifier u s).map Url.text = (resolveSpecifier v s).map Url.text := by
  unfold resolveSpecifier
  rw [h]
  dsimp only
  split
  · rfl
  · split
    · rcases map_eq_map.mp (hu.join_text hv h s) with ⟨w, w', hw, hw', htext⟩ | ⟨e, he, he'⟩
      · rw [hw, hw']
        exact congrArg Except.ok htext
      · rw [he, he']
    · split
      · rfl
      · rcases map_eq_map.mp (hu.join_text hv h _) with ⟨w, w', hw, hw', htext⟩ | ⟨e, he, he'⟩
        · rw [hw, hw']
          exact congrArg Except.ok htext
        · rw [he, he']

/-! ## What is below an entry -/

variable {network : String → Except Error String} {entry : Url}

/-- The URLs that the entry, or a module below it, imports. -/
inductive Reachable (network : String → Except Error String) (entry : Url) : Url → Prop where
  | entry : Reachable network entry entry
  | imported {u v : Url} {text : String} : Reachable network entry u → network u.text = .ok text →
      Imports (u, text) v → Reachable network entry v

/-- The module at `u` can be fetched and read, and all it imports resolves. -/
def Loads (network : String → Except Error String) (u : Url) : Prop :=
  ∃ text specifiers, network u.text = .ok text ∧ scanImports u.text text = .ok specifiers ∧
    ∀ s ∈ specifiers, ∃ v, resolveSpecifier u s = .ok v

/-- The distinct addresses below the entry. -/
def addresses (network : String → Except Error String) (entry : Url) : Set String :=
  {address | ∃ u, Reachable network entry u ∧ u.text = address}

theorem Reachable.isRead (hentry : entry.IsRead) {u : Url} (h : Reachable network entry u) :
    u.IsRead := by
  induction h with
  | entry => exact hentry
  | imported _ _ himports ih =>
    obtain ⟨specifiers, -, s, -, hresolved⟩ := himports
    exact resolveSpecifier_isRead ih hresolved

/-- Distinct addresses below the entry are no more than there are. -/
theorem length_le_addresses {known : List String} (hnodup : known.Nodup)
    (hknown : ∀ address ∈ known, address ∈ addresses network entry) :
    (known.length : ℕ∞) ≤ (addresses network entry).encard := by
  classical
  rw [← List.toFinset_card_of_nodup hnodup, ← Set.encard_coe_eq_coe_finsetCard]
  apply Set.encard_le_encard
  intro address haddress
  exact hknown address (List.mem_toFinset.mp haddress)

theorem addresses_le_length {known : List String}
    (hknown : ∀ address ∈ addresses network entry, address ∈ known) :
    (addresses network entry).encard ≤ known.length := by
  classical
  calc (addresses network entry).encard
      ≤ (known.toFinset : Set String).encard := by
        apply Set.encard_le_encard
        rw [List.coe_toFinset]
        exact hknown
    _ = known.toFinset.card := Set.encard_coe_eq_coe_finsetCard _
    _ ≤ known.length := by exact_mod_cast List.toFinset_card_le known

/-! ## Explored graphs -/

variable {limit : Nat} {modules : List (Url × String)} {ahead : List Url}

/-- All that has been met of a network's graph is below the entry. -/
theorem Explored.reachable (h : Explored entry limit modules ahead)
    (hfetched : ∀ m ∈ modules, network m.1.text = .ok m.2) :
    ∀ u ∈ met modules ahead, Reachable network entry u :=
  h.induction .entry fun m hm hreach _ himports => .imported hreach (hfetched m hm) himports

/-- Where a module imports more than there is room for, there are too many
addresses below the entry: those met so far, and the new ones. -/
theorem Explored.crowded {m : Url × String} {rest found : List Url}
    (h : Explored entry limit modules (m.1 :: rest))
    (hfetched : ∀ m' ∈ modules, network m'.1.text = .ok m'.2) (hm : network m.1.text = .ok m.2)
    (himports : ∀ u ∈ found, Imports m u) (hne : found ≠ [])
    (hdistinct : ((met modules (m.1 :: rest) ++ found).map Url.text).Nodup)
    (hfull : limit < (met modules (m.1 :: rest)).length + found.length) :
    (max limit 1 : Nat) < (addresses network entry).encard := by
  have hreach := h.reachable hfetched
  have hmet : m.1 ∈ met modules (m.1 :: rest) := by simp [met]
  have hknown : ∀ address ∈ (met modules (m.1 :: rest) ++ found).map Url.text,
      address ∈ addresses network entry := by
    intro address haddress
    obtain ⟨u, hu, rfl⟩ := List.mem_map.mp haddress
    rcases List.mem_append.mp hu with hold | hnew
    · exact ⟨u, hreach u hold, rfl⟩
    · exact ⟨u, .imported (hreach m.1 hmet) hm (himports u hnew), rfl⟩
  have hlength : max limit 1 < ((met modules (m.1 :: rest) ++ found).map Url.text).length := by
    have hfirst := List.length_pos_of_mem hmet
    have hfound := List.length_pos_iff.mpr hne
    rw [List.length_map, List.length_append]
    omega
  exact (Nat.cast_lt.mpr hlength).trans_le (length_le_addresses hdistinct hknown)

/-- With nothing ahead, all that is below the entry has been met. -/
theorem Explored.covers (h : Explored entry limit modules []) (hentry : entry.IsRead)
    (hfetched : ∀ m ∈ modules, network m.1.text = .ok m.2) {u : Url}
    (hu : Reachable network entry u) : u.text ∈ (met modules []).map Url.text := by
  induction hu with
  | entry => exact List.mem_map_of_mem (List.mem_of_mem_head? h.first)
  | @imported u v text hu hanswer himports ih =>
    obtain ⟨u', hu', htext⟩ := List.mem_map.mp ih
    have hread' : u'.IsRead := (h.reachable hfetched u' hu').isRead hentry
    rw [met, List.append_nil] at hu'
    obtain ⟨m, hm, rfl⟩ := List.mem_map.mp hu'
    obtain ⟨specifiers, hscan, s, hs, hresolved⟩ := himports
    obtain ⟨specifiers', hscan', hall⟩ := h.closed m hm
    -- the module that was taken in is the same, written at the same address
    have hpage : m.2 = text := by
      have := hfetched m hm
      rw [htext, hanswer] at this
      exact (Except.ok.inj this).symm
    rw [htext, hpage] at hscan'
    have hspecifiers : specifiers = specifiers' := Except.ok.inj (hscan.symm.trans hscan')
    obtain ⟨v', hresolved', hmet⟩ := hall s (hspecifiers ▸ hs)
    have hsame := resolveSpecifier_text hread' (hu.isRead hentry) htext s
    rw [hresolved, hresolved'] at hsame
    rwa [← Except.ok.inj hsame]

end Playpen.Dependency
