import Playpen.Proofs.Loading.Basic
import Mathlib.Data.List.Induction

/-!
# What is asked of a loader

Operations on a loader in their order, and what they would leave if every load
had its result at once: `standing` plays them on a plain table.  It is the
naive program that overlapping loads are compared with.

An operation is named by its place in the order.  The generation of a load
counts the loads before its place, so a generation names a place too
(`AddedAt.unique`).
-/

namespace Playpen.Dependency

/-! ## Operations and what they leave standing -/

/-- What is asked of a loader.  An `add` carries the result that its load will
come to. -/
inductive Operation where
  | add (d : Dependency) (result : Except Error Bundle)
  | unload (name : String)

def Operation.name : Operation → String
  | add d _ => d.name
  | unload name => name

/-- The dependencies added, in order. -/
def added (operations : List Operation) : List Dependency :=
  operations.filterMap fun
    | .add d _ => some d
    | .unload _ => none

/-- The last operation on a name. -/
def lastOn (name : String) (operations : List Operation) : Option Operation :=
  operations.reverse.find? (·.name = name)

/-- What one operation does to a table in which results are there at once. -/
def Operation.applyTo (t : Table (Dependency × Except Error Bundle)) :
    Operation → Table (Dependency × Except Error Bundle)
  | .add d result => t.insert d.name (d, result)
  | .unload name => t.erase name

/-- The dependencies left by the operations, each with its result. -/
def standing (operations : List Operation) : Table (Dependency × Except Error Bundle) :=
  operations.foldl Operation.applyTo Table.empty

/-- Whether a registry with these names takes the operation. -/
def Operation.Admitted (names : List String) : Operation → Prop
  | .add d _ => Registry.Admits names d
  | .unload _ => True

instance (names : List String) : (o : Operation) → Decidable (o.Admitted names)
  | .add d _ => inferInstanceAs (Decidable (Registry.Admits names d))
  | .unload _ => inferInstanceAs (Decidable True)

/-- The operations that take effect, of those that are asked for. -/
def accepted (asked : List Operation) : List Operation :=
  asked.foldl (fun kept o => if o.Admitted (standing kept).keys then kept ++ [o] else kept) []

/-! ## One more operation -/

theorem accepted_snoc (asked : List Operation) (o : Operation) :
    accepted (asked ++ [o]) =
      if o.Admitted (standing (accepted asked)).keys then accepted asked ++ [o]
      else accepted asked := by
  unfold accepted
  rw [List.foldl_append]
  rfl

theorem standing_snoc (operations : List Operation) (o : Operation) :
    standing (operations ++ [o]) = o.applyTo (standing operations) := by
  unfold standing
  rw [List.foldl_append]
  rfl

theorem standing_add (operations : List Operation) (d : Dependency)
    (result : Except Error Bundle) :
    standing (operations ++ [.add d result]) =
      (standing operations).insert d.name (d, result) :=
  standing_snoc operations (.add d result)

theorem standing_unload (operations : List Operation) (name : String) :
    standing (operations ++ [.unload name]) = (standing operations).erase name :=
  standing_snoc operations (.unload name)

theorem added_snoc (operations : List Operation) (o : Operation) :
    added (operations ++ [o]) = added operations ++ added [o] :=
  List.filterMap_append

theorem lastOn_snoc (name : String) (operations : List Operation) (o : Operation) :
    lastOn name (operations ++ [o]) =
      if o.name = name then some o else lastOn name operations := by
  unfold lastOn
  rw [List.reverse_append, List.reverse_singleton, List.singleton_append, List.find?_cons]
  by_cases h : o.name = name <;> simp [h]

/-- The table stands for the last operations. -/
theorem get?_standing (name : String) (operations : List Operation) :
    (standing operations).get? name =
      match lastOn name operations with
      | some (.add d result) => some (d, result)
      | _ => none := by
  induction operations using List.reverseRecOn with
  | nil => rfl
  | append_singleton operations o ih =>
    rw [lastOn_snoc]
    cases o with
    | add d result =>
      rw [standing_add, Table.get?_insert, ih]
      by_cases h : d.name = name
      · rw [if_pos h.symm]
        simp [Operation.name, h]
      · rw [if_neg (Ne.symm h)]
        simp [Operation.name, h]
    | unload name' =>
      rw [standing_unload, Table.get?_erase, ih]
      by_cases h : name' = name
      · rw [if_pos h.symm]
        simp [Operation.name, h]
      · rw [if_neg (Ne.symm h)]
        simp [Operation.name, h]

/-! ## Places and generations -/

variable {operations : List Operation} {i j : Nat} {d d' : Dependency}
  {result result' : Except Error Bundle} {generation generation' : Nat} {name : String}

/-- The operation at place `i` added `d`, and its load was given the
generation `generation`. -/
structure AddedAt (operations : List Operation) (i : Nat) (d : Dependency)
    (result : Except Error Bundle) (generation : Nat) : Prop where
  place_eq : operations[i]? = some (.add d result)
  generation_eq : generation = (added (operations.take i)).length

theorem AddedAt.lt (h : AddedAt operations i d result generation) : i < operations.length :=
  (List.getElem?_eq_some_iff.mp h.place_eq).1

theorem AddedAt.snoc (h : AddedAt operations i d result generation) (o : Operation) :
    AddedAt (operations ++ [o]) i d result generation := by
  refine ⟨?_, ?_⟩
  · rw [List.getElem?_append_left h.lt]
    exact h.place_eq
  · rw [List.take_append_of_le_length (Nat.le_of_lt h.lt)]
    exact h.generation_eq

theorem AddedAt.last (operations : List Operation) (d : Dependency)
    (result : Except Error Bundle) :
    AddedAt (operations ++ [.add d result]) operations.length d result
      (added operations).length := by
  refine ⟨by simp, ?_⟩
  rw [List.take_left]

/-- Later loads have later generations. -/
theorem AddedAt.generation_lt (h : AddedAt operations i d result generation)
    (h' : AddedAt operations j d' result' generation') (hij : i < j) :
    generation < generation' := by
  have hstep : operations.take (i + 1) = operations.take i ++ [.add d result] := by
    rw [List.take_add_one, h.place_eq]
    rfl
  have hprefix : added (operations.take (i + 1)) <+: added (operations.take j) :=
    (List.take_prefix_take_left (by omega)).filterMap _
  have hle := hprefix.length_le
  rw [hstep, added_snoc, List.length_append, ← h.generation_eq, ← h'.generation_eq] at hle
  have : (added [Operation.add d result]).length = 1 := rfl
  omega

/-- A place holds one load. -/
theorem AddedAt.same (h : AddedAt operations i d result generation)
    (h' : AddedAt operations i d' result' generation') :
    d = d' ∧ result = result' ∧ generation = generation' := by
  have hsame := h.place_eq
  rw [h'.place_eq] at hsame
  cases hsame
  exact ⟨rfl, rfl, h.generation_eq.trans h'.generation_eq.symm⟩

/-- A generation names one place. -/
theorem AddedAt.unique (h : AddedAt operations i d result generation)
    (h' : AddedAt operations j d' result' generation) : i = j ∧ d = d' ∧ result = result' := by
  have hij : i = j := by
    rcases Nat.lt_trichotomy i j with hlt | heq | hgt
    · exact absurd (h.generation_lt h' hlt) (Nat.lt_irrefl _)
    · exact heq
    · exact absurd (h'.generation_lt h hgt) (Nat.lt_irrefl _)
  subst hij
  obtain ⟨hdep, hresult, -⟩ := h.same h'
  exact ⟨rfl, hdep, hresult⟩

/-- No operation after place `i` concerns `name`. -/
def LastAt (operations : List Operation) (i : Nat) (name : String) : Prop :=
  ∀ j o, i < j → operations[j]? = some o → o.name ≠ name

theorem LastAt.snoc (h : LastAt operations i name) {o : Operation} (ho : o.name ≠ name) :
    LastAt (operations ++ [o]) i name := by
  intro j o' hij hj
  rcases Nat.lt_or_ge j operations.length with hlt | hge
  · rw [List.getElem?_append_left hlt] at hj
    exact h j o' hij hj
  · rw [List.getElem?_append_right hge] at hj
    rw [List.mem_singleton.mp (List.mem_of_getElem? hj)]
    exact ho

theorem LastAt.last (operations : List Operation) (o : Operation) (name : String) :
    LastAt (operations ++ [o]) operations.length name := by
  intro j o' hlt hj
  have := (List.getElem?_eq_some_iff.mp hj).1
  rw [List.length_append, List.length_singleton] at this
  omega

/-- The operation of a place with no later one on its name. -/
theorem lastOn_of_lastAt {o : Operation} (hi : operations[i]? = some o)
    (hlast : LastAt operations i o.name) :
    lastOn o.name operations = some o := by
  induction operations using List.reverseRecOn with
  | nil => cases hi
  | append_singleton operations o' ih =>
    rw [lastOn_snoc]
    rcases Nat.lt_or_ge i operations.length with hlt | hge
    · have hne : o'.name ≠ o.name := hlast operations.length o' hlt (by simp)
      rw [if_neg hne]
      rw [List.getElem?_append_left hlt] at hi
      apply ih hi
      intro j o'' hij hj
      apply hlast j o'' hij
      rw [List.getElem?_append_left (List.getElem?_eq_some_iff.mp hj).1]
      exact hj
    · rw [List.getElem?_append_right hge] at hi
      rw [List.mem_singleton.mp (List.mem_of_getElem? hi), if_pos rfl]

end Playpen.Dependency
