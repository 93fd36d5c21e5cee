/-!
# Tables in order of first insertion

A table maps names to values and remembers the order in which the names came.  Setting a name that
is present keeps its place; a name that was erased comes back at the end.  Names are distinct by
construction.
-/

namespace Playpen

/-- Name–value pairs with distinct names. -/
structure Table (α : Type) where
  entries : List (String × α)
  distinct : (entries.map Prod.fst).Nodup

namespace Table

variable {α : Type}

def empty : Table α := ⟨[], List.nodup_nil⟩

instance : Inhabited (Table α) := ⟨empty⟩

def keys (t : Table α) : List String := t.entries.map Prod.fst

def values (t : Table α) : List α := t.entries.map Prod.snd

def size (t : Table α) : Nat := t.entries.length

def get? (t : Table α) (key : String) : Option α := t.entries.lookup key

def contains (t : Table α) (key : String) : Bool := t.keys.contains key

/-- Replaces the value at a name that is present, and otherwise appends the pair. -/
def put (key : String) (value : α) : List (String × α) → List (String × α)
  | [] => [(key, value)]
  | (k, v) :: rest => if k = key then (k, value) :: rest else (k, v) :: put key value rest

theorem map_fst_put (key : String) (value : α) (l : List (String × α)) :
    (put key value l).map Prod.fst =
      if key ∈ l.map Prod.fst then l.map Prod.fst else l.map Prod.fst ++ [key] := by
  induction l with
  | nil => simp [put]
  | cons e rest ih =>
    obtain ⟨k, v⟩ := e
    by_cases h : k = key
    · simp [put, h]
    · have h' : ¬ key = k := fun e => h e.symm
      simp only [put, h, if_false, List.map_cons, ih, List.mem_cons, h', false_or]
      split <;> simp

theorem nodup_put (key : String) (value : α) {l : List (String × α)}
    (h : (l.map Prod.fst).Nodup) : ((put key value l).map Prod.fst).Nodup := by
  rw [map_fst_put]
  split
  · exact h
  · rename_i hk
    rw [List.nodup_append]
    refine ⟨h, by simp, ?_⟩
    intro a ha b hb
    simp only [List.mem_singleton] at hb
    subst hb
    exact fun e => hk (e ▸ ha)

/-- Sets a name: one that is present keeps its place. -/
def insert (t : Table α) (key : String) (value : α) : Table α :=
  ⟨put key value t.entries, nodup_put key value t.distinct⟩

/-- Removes a name. -/
def erase (t : Table α) (key : String) : Table α :=
  ⟨t.entries.filter (·.1 ≠ key), List.Sublist.nodup (List.Sublist.map _ List.filter_sublist) t.distinct⟩

@[simp] theorem keys_empty : (empty : Table α).keys = [] := rfl

theorem keys_insert (t : Table α) (key : String) (value : α) :
    (t.insert key value).keys = if key ∈ t.keys then t.keys else t.keys ++ [key] :=
  map_fst_put key value t.entries

theorem keys_erase (t : Table α) (key : String) : (t.erase key).keys = t.keys.filter (· ≠ key) := by
  simp [erase, keys, List.filter_map, Function.comp_def]

end Table

end Playpen
