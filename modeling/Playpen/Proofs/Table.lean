import Playpen.Table
import Mathlib.Data.List.Basic

/-!
# Looking up in tables

What `insert` and `erase` do to a later look-up, and how the look-up speaks
for the whole table: a table is its keys in order together with the function
`get?`.  Every proof about registries goes through these laws and never opens
the list of entries again.
-/

namespace Playpen.Table

variable {α β γ : Type}

/-! ## Entries and look-ups -/

theorem lookup_of_mem_of_nodup {k : String} {v : α} :
    ∀ {l : List (String × α)}, (l.map Prod.fst).Nodup → (k, v) ∈ l → l.lookup k = some v
  | [], _, h => absurd h List.not_mem_nil
  | (k', v') :: rest, hnd, h => by
      rw [List.map_cons, List.nodup_cons] at hnd
      rcases List.mem_cons.mp h with heq | hrest
      · cases heq
        exact List.lookup_cons_self
      · have hne : (k == k') = false := by
          rw [beq_eq_false_iff_ne]
          rintro rfl
          exact hnd.1 (List.mem_map.mpr ⟨(k, v), hrest, rfl⟩)
        rw [List.lookup_cons, hne]
        exact lookup_of_mem_of_nodup hnd.2 hrest

/-- A look-up finds exactly the entries, since keys are distinct. -/
theorem mem_entries_iff {t : Table α} {k : String} {v : α} :
    (k, v) ∈ t.entries ↔ t.get? k = some v := by
  constructor
  · exact lookup_of_mem_of_nodup t.distinct
  · intro h
    obtain ⟨before, after, heq, _⟩ := List.lookup_eq_some_iff.mp h
    rw [heq]
    simp

theorem mem_keys_iff {t : Table α} {k : String} : k ∈ t.keys ↔ ∃ v, t.get? k = some v := by
  unfold keys
  rw [List.mem_map]
  constructor
  · rintro ⟨⟨_, v⟩, hmem, rfl⟩
    exact ⟨v, mem_entries_iff.mp hmem⟩
  · rintro ⟨v, hv⟩
    exact ⟨(k, v), mem_entries_iff.mpr hv, rfl⟩

theorem get?_eq_none_iff {t : Table α} {k : String} : t.get? k = none ↔ k ∉ t.keys := by
  rw [mem_keys_iff, Option.eq_none_iff_forall_not_mem]
  simp

theorem contains_iff {t : Table α} {k : String} : t.contains k = true ↔ k ∈ t.keys :=
  List.contains_iff_mem

theorem keys_nodup (t : Table α) : t.keys.Nodup := t.distinct

/-! ## After a change -/

theorem lookup_put (key k : String) (value : α) (l : List (String × α)) :
    (put key value l).lookup k = if k = key then some value else l.lookup k := by
  induction l with
  | nil => by_cases h : k = key <;> simp [put, h]
  | cons e rest ih =>
    obtain ⟨k', v'⟩ := e
    by_cases hk : k = k'
    · subst hk
      by_cases hk' : k = key <;> simp [put, hk']
    · have hb : (k == k') = false := beq_eq_false_iff_ne.mpr hk
      by_cases hk' : k' = key
      · subst hk'
        rw [put, if_pos rfl, List.lookup_cons, List.lookup_cons, hb, if_neg hk]
      · rw [put, if_neg hk', List.lookup_cons, List.lookup_cons, hb, ih]

@[simp] theorem get?_insert (t : Table α) (key k : String) (value : α) :
    (t.insert key value).get? k = if k = key then some value else t.get? k :=
  lookup_put key k value t.entries

@[simp] theorem get?_erase (t : Table α) (key k : String) :
    (t.erase key).get? k = if k = key then none else t.get? k := by
  by_cases hk : k = key
  · rw [if_pos hk, get?_eq_none_iff, keys_erase, hk]
    exact fun hmem => of_decide_eq_true (List.mem_filter.mp hmem).2 rfl
  · rw [if_neg hk]
    apply Option.ext
    intro v
    rw [← mem_entries_iff, ← mem_entries_iff]
    simp [erase, hk]

theorem get?_insert_eq_some_iff {t : Table α} {key k : String} {value v : α} :
    (t.insert key value).get? k = some v ↔
      (k = key ∧ v = value) ∨ (k ≠ key ∧ t.get? k = some v) := by
  rw [get?_insert]
  by_cases hk : k = key
  · simp [hk, eq_comm]
  · simp [hk]

theorem get?_erase_eq_some_iff {t : Table α} {key k : String} {v : α} :
    (t.erase key).get? k = some v ↔ k ≠ key ∧ t.get? k = some v := by
  rw [get?_erase]
  by_cases hk : k = key <;> simp [hk]

/-- Setting a new key appends its pair. -/
theorem entries_insert_of_not_mem {t : Table α} {key : String} (h : key ∉ t.keys) (value : α) :
    (t.insert key value).entries = t.entries ++ [(key, value)] := by
  show put key value t.entries = _
  have : ∀ l : List (String × α), key ∉ l.map Prod.fst →
      put key value l = l ++ [(key, value)] := by
    intro l
    induction l with
    | nil => intro _; rfl
    | cons e rest ih =>
      intro hk
      rw [List.map_cons, List.mem_cons, not_or] at hk
      rw [put, if_neg (Ne.symm hk.1), ih hk.2]
      rfl
  exact this t.entries h

/-! ## Setting or erasing, as one operation -/

/-- Sets a name to a value, or erases it where there is none. -/
def assign (t : Table α) (key : String) : Option α → Table α
  | some value => t.insert key value
  | none => t.erase key

@[simp] theorem get?_assign (t : Table α) (key k : String) (value : Option α) :
    (t.assign key value).get? k = if k = key then value else t.get? k := by
  cases value with
  | none => exact get?_erase t key k
  | some v => exact get?_insert t key k v

theorem filter_put (key : String) (value : α) (l : List (String × α)) :
    (put key value l).filter (·.1 ≠ key) = l.filter (·.1 ≠ key) := by
  induction l with
  | nil => simp [put]
  | cons e rest ih =>
    obtain ⟨k, v⟩ := e
    by_cases hk : k = key
    · simp [put, hk]
    · rw [put, if_neg hk, List.filter_cons, List.filter_cons, ih]

/-- The other entries stay as they are, and in their order. -/
theorem filter_entries_assign (t : Table α) (key : String) (value : Option α) :
    (t.assign key value).entries.filter (·.1 ≠ key) = t.entries.filter (·.1 ≠ key) := by
  cases value with
  | none =>
    show (t.entries.filter (·.1 ≠ key)).filter (·.1 ≠ key) = _
    rw [List.filter_filter]
    simp
  | some v => exact filter_put key v t.entries

/-- The other names keep their order. -/
theorem filter_keys_assign (t : Table α) (key : String) (value : Option α) :
    (t.assign key value).keys.filter (· ≠ key) = t.keys.filter (· ≠ key) := by
  cases value with
  | none =>
    show (t.erase key).keys.filter (· ≠ key) = _
    rw [keys_erase, List.filter_filter]
    simp
  | some v =>
    show (t.insert key v).keys.filter (· ≠ key) = _
    rw [keys_insert]
    split
    · rfl
    · rw [List.filter_append]
      simp

/-! ## Tables with the same keys -/

theorem values_eq_filterMap (t : Table α) : t.values = t.keys.filterMap t.get? := by
  unfold values keys
  rw [List.filterMap_map, ← List.filterMap_eq_map]
  apply List.filterMap_congr
  intro e he
  exact (mem_entries_iff.mp he).symm

/-- Two tables with the same keys in the same order, whose entries look alike
name by name, list alike. -/
theorem map_values_eq {t : Table α} {u : Table β} {f : α → γ} {g : β → γ}
    (hkeys : t.keys = u.keys)
    (hget : ∀ k v, t.get? k = some v → ∃ w, u.get? k = some w ∧ f v = g w) :
    t.values.map f = u.values.map g := by
  rw [values_eq_filterMap, values_eq_filterMap, hkeys, List.map_filterMap, List.map_filterMap]
  apply List.filterMap_congr
  intro k hk
  rw [← hkeys] at hk
  obtain ⟨v, hv⟩ := mem_keys_iff.mp hk
  obtain ⟨w, hw, heq⟩ := hget k v hv
  rw [hv, hw, Option.map_some, Option.map_some, heq]

end Playpen.Table
