import Playpen.Dependency.Registry
import Playpen.Proofs.Table

/-!
# What holds of every registry

A registry is two tables and a counter that have to stay in step.  First each
operation is described once, as what it does to the look-ups; then
`WellFormed` says what the tables and the counter owe one another, and every
operation is shown to keep it.

The invariant is stated against `begun`, the dependencies listed so far, one
for each successful `begin`.  The counter is their number, so the generation
of a listing is a place in that list: a ticket, a listing and a past `begin`
are tied together by one index, and freshness of generations needs no
argument of its own.
-/

namespace Playpen.Dependency

/-! ## How a load is reported -/

/-- How a load ends: with modules to bind, or with the text of what went
wrong. -/
inductive Verdict where
  | bound (b : Bundle)
  | failed (message : String)

namespace Verdict

/-- The status a listing takes. -/
def status : Verdict → Status
  | bound _ => .loaded
  | failed message => .failed message

/-- What is bound afterwards. -/
def bundle? : Verdict → Option Bundle
  | bound b => some b
  | failed _ => none

theorem status_ne_loading (v : Verdict) : v.status ≠ .loading := by
  cases v <;> exact Status.noConfusion

end Verdict

namespace Registry

variable {r r' : Registry} {d : Dependency} {t : Ticket}

/-- `commit` and `fail` are one operation, told apart by the verdict. -/
def conclude (r : Registry) (t : Ticket) : Verdict → Bool × Registry
  | .bound b => r.commit t b
  | .failed message => r.fail t message

/-! ## What each operation does -/

theorem conflict?_eq_none_iff {name : String} :
    r.conflict? name = none ↔ ∀ listed ∈ r.listings.keys,
      listed ≠ name → bindingIdentifier listed ≠ bindingIdentifier name := by
  unfold conflict?
  rw [List.find?_eq_none]
  simp

/-- The checks of `begin`: where `names` are listed, `d` may be listed too. -/
def Admits (names : List String) (d : Dependency) : Prop :=
  d.name ≠ "" ∧ d.name ≠ "console" ∧
    ∀ listed ∈ names, listed ≠ d.name → bindingIdentifier listed ≠ bindingIdentifier d.name

instance (names : List String) (d : Dependency) : Decidable (Admits names d) :=
  inferInstanceAs (Decidable (_ ∧ _ ∧ _))

/-- A `begin` that succeeds has passed its three checks, lists the dependency
as loading under the next generation, and touches nothing else. -/
theorem begin_ok (h : r.begin d = .ok (t, r')) :
    Admits r.listings.keys d ∧
    t = ⟨d.name, r.nextGeneration⟩ ∧
    r' = { r with
      listings := r.listings.insert d.name ⟨d, r.nextGeneration, .loading⟩
      nextGeneration := r.nextGeneration + 1 } := by
  unfold Registry.begin at h
  split at h
  · cases h
  · rename_i hempty
    split at h
    · cases h
    · rename_i hreserved
      split at h
      · cases h
      · rename_i hconflict
        cases h
        refine ⟨⟨hempty, ?_, conflict?_eq_none_iff.mp hconflict⟩, rfl, rfl⟩
        intro hconsole
        exact hreserved (by simp [hconsole, reservedNames])

theorem begin_of_admits (h : Admits r.listings.keys d) : ∃ t r', r.begin d = .ok (t, r') := by
  obtain ⟨hempty, hconsole, hconflict⟩ := h
  have hreserved : ¬ reservedNames.contains d.name = true := by simpa [reservedNames] using hconsole
  unfold Registry.begin
  rw [if_neg hempty, if_neg hreserved, conflict?_eq_none_iff.mpr hconflict]
  exact ⟨_, _, rfl⟩

theorem current?_eq_some_iff {l : Listing} :
    r.current? t = some l ↔ r.listings.get? t.name = some l ∧ l.generation = t.generation := by
  unfold current?
  rw [Option.filter_eq_some_iff, decide_eq_true_iff]

theorem conclude_current {l : Listing} (h : r.current? t = some l) (v : Verdict) :
    r.conclude t v = (true, { r with
      listings := r.listings.insert t.name { l with status := v.status }
      bundles := r.bundles.assign t.name v.bundle? }) := by
  cases v with
  | bound b =>
    show r.commit t b = _
    rw [commit, h]
    rfl
  | failed message =>
    show r.fail t message = _
    rw [fail, h]
    rfl

theorem conclude_stale (h : r.current? t = none) (v : Verdict) : r.conclude t v = (false, r) := by
  cases v with
  | bound b =>
    show r.commit t b = _
    rw [commit, h]
  | failed message =>
    show r.fail t message = _
    rw [fail, h]

theorem mem_dependencies {l : Listing} :
    l ∈ r.dependencies ↔ ∃ name, r.listings.get? name = some l := by
  unfold dependencies Table.values
  rw [List.mem_map]
  constructor
  · rintro ⟨⟨name, _⟩, hmem, rfl⟩
    exact ⟨name, Table.mem_entries_iff.mp hmem⟩
  · rintro ⟨name, hl⟩
    exact ⟨(name, l), Table.mem_entries_iff.mpr hl, rfl⟩

/-- Reports list nothing and unlist nothing. -/
theorem conclude_keys (r : Registry) (t : Ticket) (v : Verdict) :
    (r.conclude t v).2.listings.keys = r.listings.keys := by
  cases hcur : r.current? t with
  | none => rw [conclude_stale hcur]
  | some l =>
    rw [conclude_current hcur]
    obtain ⟨hl, -⟩ := current?_eq_some_iff.mp hcur
    show (r.listings.insert t.name _).keys = r.listings.keys
    rw [Table.keys_insert, if_pos (Table.mem_keys_iff.mpr ⟨l, hl⟩)]

/-! ## The invariant -/

/-- What the tables and the counter owe one another, in a registry where
`begun` are the dependencies listed so far. -/
structure WellFormed (r : Registry) (begun : List Dependency) : Prop where
  next_eq : r.nextGeneration = begun.length
  named : ∀ {name l}, r.listings.get? name = some l → l.dependency.name = name
  /-- A listing shows the dependency that its generation was handed out for. -/
  begun_at : ∀ {name l}, r.listings.get? name = some l →
    begun[l.generation]? = some l.dependency
  nameable : ∀ {name}, name ∈ r.listings.keys → name ≠ "" ∧ name ≠ "console"
  identifiers : (r.listings.keys.map bindingIdentifier).Nodup
  unlisted_unbound : ∀ {name}, r.listings.get? name = none → r.bundles.get? name = none
  loaded_bound : ∀ {name l}, r.listings.get? name = some l → l.status = .loaded →
    ∃ b, r.bundles.get? name = some b
  failed_unbound : ∀ {name l message}, r.listings.get? name = some l →
    l.status = .failed message → r.bundles.get? name = none

namespace WellFormed

variable {begun : List Dependency}

theorem generation_lt (h : r.WellFormed begun) {name : String} {l : Listing}
    (hl : r.listings.get? name = some l) : l.generation < begun.length :=
  (List.getElem?_eq_some_iff.mp (h.begun_at hl)).1

theorem empty : Registry.empty.WellFormed [] where
  next_eq := rfl
  named h := by cases h
  begun_at h := by cases h
  nameable h := absurd h List.not_mem_nil
  identifiers := List.nodup_nil
  unlisted_unbound _ := rfl
  loaded_bound h := by cases h
  failed_unbound h := by cases h

theorem begin (h : r.WellFormed begun) (hb : r.begin d = .ok (t, r')) :
    r'.WellFormed (begun ++ [d]) := by
  obtain ⟨⟨hempty, hconsole, hconflict⟩, -, rfl⟩ := begin_ok hb
  refine
    { next_eq := ?_, named := ?_, begun_at := ?_, nameable := ?_, identifiers := ?_
      unlisted_unbound := ?_, loaded_bound := ?_, failed_unbound := ?_ }
  · simp [h.next_eq]
  · intro name l hl
    rcases Table.get?_insert_eq_some_iff.mp hl with ⟨rfl, rfl⟩ | ⟨-, hold⟩
    · rfl
    · exact h.named hold
  · intro name l hl
    rcases Table.get?_insert_eq_some_iff.mp hl with ⟨rfl, rfl⟩ | ⟨-, hold⟩
    · simp [h.next_eq]
    · rw [List.getElem?_append_left (h.generation_lt hold)]
      exact h.begun_at hold
  · intro name hname
    obtain ⟨l, hl⟩ := Table.mem_keys_iff.mp hname
    rcases Table.get?_insert_eq_some_iff.mp hl with ⟨rfl, -⟩ | ⟨-, hold⟩
    · exact ⟨hempty, hconsole⟩
    · exact h.nameable (Table.mem_keys_iff.mpr ⟨l, hold⟩)
  · -- a new name brings an identifier that no listed name has; a listed one brings none
    rw [Table.keys_insert]
    split
    · exact h.identifiers
    · rename_i hnew
      rw [List.map_append, List.nodup_append]
      refine ⟨h.identifiers, by simp, ?_⟩
      intro a ha b hb heq
      obtain ⟨listed, hlisted, rfl⟩ := List.mem_map.mp ha
      rw [List.map_singleton, List.mem_singleton] at hb
      have hne : listed ≠ d.name := fun e => hnew (e ▸ hlisted)
      exact hconflict listed hlisted hne (heq.trans hb)
  · intro name hnone
    rw [Table.get?_insert] at hnone
    split at hnone
    · cases hnone
    · exact h.unlisted_unbound hnone
  · intro name l hl hloaded
    rcases Table.get?_insert_eq_some_iff.mp hl with ⟨rfl, rfl⟩ | ⟨-, hold⟩
    · cases hloaded
    · exact h.loaded_bound hold hloaded
  · intro name l message hl hfailed
    rcases Table.get?_insert_eq_some_iff.mp hl with ⟨rfl, rfl⟩ | ⟨-, hold⟩
    · cases hfailed
    · exact h.failed_unbound hold hfailed

/-- Reports keep the invariant whatever ticket they come with: one that is
good changes a listing's status only, and binds accordingly. -/
theorem conclude (h : r.WellFormed begun) (t : Ticket) (v : Verdict) :
    (r.conclude t v).2.WellFormed begun := by
  cases hcur : r.current? t with
  | none =>
    rw [conclude_stale hcur]
    exact h
  | some l =>
    have hkeys := conclude_keys r t v
    rw [conclude_current hcur] at hkeys ⊢
    obtain ⟨hl, -⟩ := current?_eq_some_iff.mp hcur
    refine
      { next_eq := h.next_eq, named := ?_, begun_at := ?_, nameable := ?_, identifiers := ?_
        unlisted_unbound := ?_, loaded_bound := ?_, failed_unbound := ?_ }
    · intro name l' hl'
      rcases Table.get?_insert_eq_some_iff.mp hl' with ⟨rfl, rfl⟩ | ⟨-, hold⟩
      · exact h.named (l := l) hl
      · exact h.named hold
    · intro name l' hl'
      rcases Table.get?_insert_eq_some_iff.mp hl' with ⟨rfl, rfl⟩ | ⟨-, hold⟩
      · exact h.begun_at (l := l) hl
      · exact h.begun_at hold
    · intro name hname
      rw [hkeys] at hname
      exact h.nameable hname
    · rw [hkeys]
      exact h.identifiers
    · intro name hnone
      rw [Table.get?_insert] at hnone
      split at hnone
      · cases hnone
      · rename_i hne
        rw [Table.get?_assign, if_neg hne]
        exact h.unlisted_unbound hnone
    · intro name l' hl' hloaded
      rw [Table.get?_assign]
      rcases Table.get?_insert_eq_some_iff.mp hl' with ⟨rfl, rfl⟩ | ⟨hne, hold⟩
      · cases v with
        | bound b => exact ⟨b, if_pos rfl⟩
        | failed message => cases hloaded
      · rw [if_neg hne]
        exact h.loaded_bound hold hloaded
    · intro name l' message hl' hfailed
      rw [Table.get?_assign]
      rcases Table.get?_insert_eq_some_iff.mp hl' with ⟨rfl, rfl⟩ | ⟨hne, hold⟩
      · cases v with
        | bound b => cases hfailed
        | failed message => exact if_pos rfl
      · rw [if_neg hne]
        exact h.failed_unbound hold hfailed

theorem remove (h : r.WellFormed begun) (name : String) : (r.remove name).2.WellFormed begun := by
  show WellFormed { r with listings := r.listings.erase name, bundles := r.bundles.erase name } begun
  refine
    { next_eq := h.next_eq, named := ?_, begun_at := ?_, nameable := ?_, identifiers := ?_
      unlisted_unbound := ?_, loaded_bound := ?_, failed_unbound := ?_ }
  · intro name' l hl
    exact h.named (Table.get?_erase_eq_some_iff.mp hl).2
  · intro name' l hl
    exact h.begun_at (Table.get?_erase_eq_some_iff.mp hl).2
  · intro name' hname
    obtain ⟨l, hl⟩ := Table.mem_keys_iff.mp hname
    exact h.nameable (Table.mem_keys_iff.mpr ⟨l, (Table.get?_erase_eq_some_iff.mp hl).2⟩)
  · rw [Table.keys_erase]
    exact (List.filter_sublist.map bindingIdentifier).nodup h.identifiers
  · intro name' hnone
    rw [Table.get?_erase] at hnone ⊢
    split
    · rfl
    · rename_i hne
      rw [if_neg hne] at hnone
      exact h.unlisted_unbound hnone
  · intro name' l hl hloaded
    obtain ⟨hne, hold⟩ := Table.get?_erase_eq_some_iff.mp hl
    rw [Table.get?_erase, if_neg hne]
    exact h.loaded_bound hold hloaded
  · intro name' l message hl hfailed
    obtain ⟨hne, hold⟩ := Table.get?_erase_eq_some_iff.mp hl
    rw [Table.get?_erase, if_neg hne]
    exact h.failed_unbound hold hfailed

end WellFormed

/-! ## Tickets -/

/-- The ticket `t` was handed out when `d` was listed. -/
def Issued (begun : List Dependency) (d : Dependency) (t : Ticket) : Prop :=
  begun[t.generation]? = some d ∧ t.name = d.name

theorem Issued.append {begun : List Dependency} (h : Issued begun d t) (more : List Dependency) :
    Issued (begun ++ more) d t := by
  refine ⟨?_, h.2⟩
  rw [List.getElem?_append_left (List.getElem?_eq_some_iff.mp h.1).1]
  exact h.1

theorem WellFormed.issued_of_begin {begun : List Dependency} (h : r.WellFormed begun)
    (hb : r.begin d = .ok (t, r')) : Issued (begun ++ [d]) d t := by
  obtain ⟨-, rfl, -⟩ := begin_ok hb
  refine ⟨?_, rfl⟩
  simp [h.next_eq]

/-- A ticket that is still good is good for the listing of its own
dependency. -/
theorem WellFormed.dependency_of_current {begun : List Dependency} (h : r.WellFormed begun)
    (ht : Issued begun d t) {l : Listing} (hcur : r.current? t = some l) : l.dependency = d := by
  obtain ⟨hl, hgen⟩ := current?_eq_some_iff.mp hcur
  have hat := h.begun_at hl
  rw [hgen, ht.1] at hat
  exact (Option.some.inj hat).symm

end Registry

end Playpen.Dependency
