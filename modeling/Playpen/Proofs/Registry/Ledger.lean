import Playpen.Proofs.Naming.Identifier
import Playpen.Proofs.Registry.Invariant
import Mathlib.Data.List.Induction
import Mathlib.Data.List.Nodup

/-!
# Registries with the tickets they have handed out

A ledger is a registry together with every dependency it has listed and every
ticket it has handed out.  Nothing is known about who holds the tickets: each
may come back at any time, or twice, or never, with modules or with an error.
`run` plays any list of such actions; `run_consistent` is what holds after
each of them.
-/

namespace Playpen.Dependency

/-- A registry, the dependencies it has listed and the tickets it has handed
out, both in order. -/
structure Ledger where
  registry : Registry
  begun : List Dependency
  tickets : List Ticket

namespace Ledger

/-- What can happen to a registry.  A load reports with the ticket of a
number, counted in the order in which tickets were handed out. -/
inductive Action where
  | begin (d : Dependency)
  | commit (ticket : Nat) (b : Bundle)
  | fail (ticket : Nat) (message : String)
  | remove (name : String)

def start : Ledger := ⟨.empty, [], []⟩

/-- Uses the ticket of a number, if there is one. -/
def useTicket (s : Ledger) (ticket : Nat) (f : Ticket → Bool × Registry) : Ledger :=
  match s.tickets[ticket]? with
  | some t => { s with registry := (f t).2 }
  | none => s

def step (s : Ledger) : Action → Ledger
  | .begin d =>
    match s.registry.begin d with
    | .ok (t, r) => ⟨r, s.begun ++ [d], s.tickets ++ [t]⟩
    | .error _ => s
  | .commit ticket b => s.useTicket ticket (s.registry.commit · b)
  | .fail ticket message => s.useTicket ticket (s.registry.fail · message)
  | .remove name => { s with registry := (s.registry.remove name).2 }

/-- Plays actions one after the other, from the empty registry. -/
def run (actions : List Action) : Ledger := actions.foldl step start

theorem run_snoc (actions : List Action) (a : Action) :
    run (actions ++ [a]) = (run actions).step a := by
  unfold run
  rw [List.foldl_append]
  rfl

/-! ## The invariant over runs -/

/-- The registry is well formed, and every ticket names a dependency that was
listed under the ticket's generation. -/
structure Valid (s : Ledger) : Prop where
  wellFormed : s.registry.WellFormed s.begun
  issued : ∀ t ∈ s.tickets, ∃ d, Registry.Issued s.begun d t

theorem Valid.useTicket {s : Ledger} (h : s.Valid) (ticket : Nat) (v : Verdict) :
    (s.useTicket ticket (s.registry.conclude · v)).Valid := by
  unfold Ledger.useTicket
  split
  · exact ⟨h.wellFormed.conclude _ v, h.issued⟩
  · exact h

theorem Valid.step {s : Ledger} (h : s.Valid) (a : Action) : (s.step a).Valid := by
  cases a with
  | begin d =>
    cases hb : s.registry.begin d with
    | error e =>
      simp only [Ledger.step, hb]
      exact h
    | ok result =>
      obtain ⟨t, r⟩ := result
      simp only [Ledger.step, hb]
      refine ⟨h.wellFormed.begin hb, ?_⟩
      intro t' ht'
      rcases List.mem_append.mp ht' with hold | hnew
      · obtain ⟨d', hd'⟩ := h.issued t' hold
        exact ⟨d', hd'.append [d]⟩
      · rw [List.mem_singleton] at hnew
        subst hnew
        exact ⟨d, h.wellFormed.issued_of_begin hb⟩
  | commit ticket b => exact h.useTicket ticket (.bound b)
  | fail ticket message => exact h.useTicket ticket (.failed message)
  | remove name => exact ⟨h.wellFormed.remove name, h.issued⟩

theorem run_valid (actions : List Action) : (run actions).Valid := by
  induction actions using List.reverseRecOn with
  | nil => exact ⟨Registry.WellFormed.empty, fun t ht => absurd ht List.not_mem_nil⟩
  | append_singleton actions a ih =>
    rw [run_snoc]
    exact ih.step a

/-! ## What it amounts to -/

/-- How the listings, the bindings, the counter and the tickets fit
together. -/
structure Consistent (s : Ledger) : Prop where
  keys_eq : s.registry.listings.keys = s.registry.dependencies.map (·.dependency.name)
  keys_nodup : s.registry.listings.keys.Nodup
  nameable : ∀ name ∈ s.registry.listings.keys, name ≠ "" ∧ name ≠ "console"
  identifiers_nodup : (s.registry.listings.keys.map bindingIdentifier).Nodup
  identifier_ne_console : ∀ name ∈ s.registry.listings.keys, bindingIdentifier name ≠ "console"
  bound_listed : ∀ name ∈ s.registry.bundles.keys, name ∈ s.registry.listings.keys
  loaded_bound : ∀ name l, s.registry.listings.get? name = some l → l.status = .loaded →
    name ∈ s.registry.bundles.keys
  failed_unbound : ∀ name l message, s.registry.listings.get? name = some l →
    l.status = .failed message → name ∉ s.registry.bundles.keys
  generations_nodup : (s.registry.dependencies.map (·.generation)).Nodup
  generation_lt : ∀ l ∈ s.registry.dependencies, l.generation < s.registry.nextGeneration
  ticket_lt : ∀ t ∈ s.tickets, t.generation < s.registry.nextGeneration
  /-- The counter is the number of successful `begin`s, so 64 bits hold it in
  any run with fewer than `2 ^ 64` of them. -/
  next_eq : s.registry.nextGeneration = s.begun.length

/-- A generation belongs to one dependency, so it appears in one listing. -/
theorem generations_nodup {r : Registry} {begun : List Dependency} (h : r.WellFormed begun) :
    (r.dependencies.map (·.generation)).Nodup := by
  unfold Registry.dependencies Table.values
  rw [List.map_map]
  refine List.Nodup.map_on ?_ (List.Nodup.of_map Prod.fst r.listings.distinct)
  rintro ⟨name, l⟩ hl ⟨name', l'⟩ hl' (hgen : l.generation = l'.generation)
  rw [Table.mem_entries_iff] at hl hl'
  have hdep : l.dependency = l'.dependency := by
    have hat := h.begun_at hl
    rw [hgen, h.begun_at hl'] at hat
    exact (Option.some.inj hat).symm
  have hname : name = name' := by
    rw [← h.named hl, ← h.named hl', hdep]
  subst hname
  rw [hl] at hl'
  rw [Option.some.inj hl']

/-- Whatever is done with the tickets, and in whatever order, listings and
bindings stay in step. -/
theorem run_consistent (actions : List Action) : (run actions).Consistent := by
  obtain ⟨h, hissued⟩ := run_valid actions
  refine
    { keys_eq := ?_, keys_nodup := Table.keys_nodup _, nameable := fun _ => h.nameable
      identifiers_nodup := h.identifiers
      identifier_ne_console := fun name _ => bindingIdentifier_ne_console name
      bound_listed := ?_, loaded_bound := ?_, failed_unbound := ?_
      generations_nodup := generations_nodup h
      generation_lt := ?_, ticket_lt := ?_, next_eq := h.next_eq }
  · unfold Registry.dependencies Table.values Table.keys
    rw [List.map_map]
    apply List.map_congr_left
    intro e he
    exact (h.named (Table.mem_entries_iff.mp he)).symm
  · intro name hbound
    by_contra hunlisted
    rw [← Table.get?_eq_none_iff] at hunlisted
    exact Table.get?_eq_none_iff.mp (h.unlisted_unbound hunlisted) hbound
  · intro name l hl hloaded
    exact Table.mem_keys_iff.mpr (h.loaded_bound hl hloaded)
  · intro name l message hl hfailed
    exact Table.get?_eq_none_iff.mp (h.failed_unbound hl hfailed)
  · intro l hl
    obtain ⟨name, hget⟩ := Registry.mem_dependencies.mp hl
    rw [h.next_eq]
    exact h.generation_lt hget
  · intro t ht
    obtain ⟨d, hd, -⟩ := hissued t ht
    rw [h.next_eq]
    exact (List.getElem?_eq_some_iff.mp hd).1

end Ledger

end Playpen.Dependency
