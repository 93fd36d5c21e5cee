import Playpen.Proofs.Loading.Operation

/-!
# Overlapping loads

A schedule plays operations on a loader and lets the loads they start complete
at any later time, in any order.  A load that completes reports the result its
operation carries, with the ticket it was given when it began; whatever was
added or removed meanwhile is in the registry by then.

Two schedules of the same operations leave the same dependencies and bindings
once nothing is running.  The proof does not commute completions with
operations.  `Sound` says for every moment what each listing shows: it belongs
to the last operation on its name, and is loading exactly while that load
runs.  With nothing running this is the table `standing`, which knows the
operations only.
-/

namespace Playpen.Dependency

/-- A load that has not completed yet, with the place of its operation and the
result it will come to. -/
structure Running where
  place : Nat
  load : Load
  result : Except Error Bundle

/-- A running load knows its place: it was begun by the operation there, and
its ticket has the generation of that operation. -/
structure Running.Placed (operations : List Operation) (p : Running) : Prop where
  added : AddedAt operations p.place p.load.dependency p.result p.load.ticket.generation
  name_eq : p.load.ticket.name = p.load.dependency.name

theorem Running.Placed.snoc {operations : List Operation} {p : Running}
    (h : p.Placed operations) (o : Operation) : p.Placed (operations ++ [o]) :=
  ⟨h.added.snoc o, h.name_eq⟩

/-- A registry, the operations that took effect on it so far, and the loads
that are still running. -/
structure Schedule where
  registry : Registry
  operations : List Operation
  running : List Running

namespace Schedule

/-- What happens next: an operation is performed, or the load of the operation
at a place completes. -/
inductive Event where
  | perform (o : Operation)
  | complete (place : Nat)

def start : Schedule := ⟨.empty, [], []⟩

/-- An `add` that the registry refuses is no operation.  A load completes
once. -/
def step (s : Schedule) (c : Config) : Event → Schedule
  | .perform (.add d result) =>
    match Load.begin c s.registry d with
    | .ok (load, r) =>
      ⟨r, s.operations ++ [.add d result], s.running ++ [⟨s.operations.length, load, result⟩]⟩
    | .error _ => s
  | .perform (.unload name) =>
    ⟨(s.registry.remove name).2, s.operations ++ [.unload name], s.running⟩
  | .complete place =>
    match s.running.find? (·.place = place) with
    | some p =>
      { s with
        registry := (p.load.finish s.registry p.result).registry
        running := s.running.filter (·.place ≠ place) }
    | none => s

/-- Plays events one after the other, from an empty registry. -/
def run (c : Config) (events : List Event) : Schedule := events.foldl (·.step c) start

theorem run_snoc (c : Config) (events : List Event) (e : Event) :
    run c (events ++ [e]) = (run c events).step c e := by
  unfold run
  rw [List.foldl_append]
  rfl

/-- The places whose loads are running. -/
def places (s : Schedule) : List Nat := s.running.map (·.place)

/-! ## The invariant -/

/-- What a listing shows, with its binding, when its load has the result
`result` and `running` says whether the load is under way. -/
def Shows (r : Registry) (name : String) (l : Listing) (result : Except Error Bundle)
    (running : Prop) : Prop :=
  (running → l.status = .loading) ∧
  (¬ running → l.status = (Verdict.ofResult result).status ∧
    r.bundles.get? name = (Verdict.ofResult result).bundle?)

theorem Shows.congr {r r' : Registry} {name : String} {l : Listing}
    {result : Except Error Bundle} {running running' : Prop} (h : Shows r name l result running)
    (hbundles : r'.bundles.get? name = r.bundles.get? name) (hrunning : running' ↔ running) :
    Shows r' name l result running' := by
  refine ⟨fun hr => h.1 (hrunning.mp hr), fun hr => ?_⟩
  obtain ⟨hstatus, hbound⟩ := h.2 (fun hold => hr (hrunning.mpr hold))
  exact ⟨hstatus, hbundles.trans hbound⟩

/-- What holds between any two events. -/
structure Sound (s : Schedule) : Prop where
  wellFormed : s.registry.WellFormed (added s.operations)
  keys_eq : s.registry.listings.keys = (standing s.operations).keys
  placed : ∀ p ∈ s.running, p.Placed s.operations
  /-- Every listing comes from the last operation on its name. -/
  listed : ∀ {name l}, s.registry.listings.get? name = some l → ∃ place result,
    AddedAt s.operations place l.dependency result l.generation ∧
    LastAt s.operations place name ∧ Shows s.registry name l result (place ∈ s.places)

/-- A ticket is good only for the listing that its own operation left, so only
while no later operation concerns the name. -/
theorem Sound.last_of_current {s : Schedule} (h : s.Sound) {p : Running}
    (hp : p.Placed s.operations) {l : Listing}
    (hcur : s.registry.current? p.load.ticket = some l) :
    LastAt s.operations p.place p.load.dependency.name := by
  obtain ⟨hl, hgen⟩ := Registry.current?_eq_some_iff.mp hcur
  obtain ⟨place, result, hadded, hlast, -⟩ := h.listed hl
  rw [hgen] at hadded
  obtain ⟨hplace, -, -⟩ := hadded.unique hp.added
  rw [← hplace, ← hp.name_eq]
  exact hlast

/-- A load that an unload or a later add overtook leaves the registry as it
is. -/
theorem Sound.finish_overtaken {s : Schedule} (h : s.Sound) {p : Running} (hp : p ∈ s.running)
    (hlater : ¬ LastAt s.operations p.place p.load.dependency.name) :
    (p.load.finish s.registry p.result).registry = s.registry := by
  have hstale : s.registry.current? p.load.ticket = none := by
    rw [Option.eq_none_iff_forall_ne_some]
    intro l hcur
    exact hlater (h.last_of_current (h.placed p hp) hcur)
  rw [Load.finish_registry, Registry.conclude_stale hstale]

/-! ## Every event keeps it -/

theorem Sound.start : start.Sound where
  wellFormed := Registry.WellFormed.empty
  keys_eq := rfl
  placed p hp := absurd hp List.not_mem_nil
  listed hl := by cases hl

theorem Sound.performAdd {s : Schedule} (h : s.Sound) {c : Config} {d : Dependency}
    {result : Except Error Bundle} {load : Load} {r : Registry}
    (hb : Load.begin c s.registry d = .ok (load, r)) :
    Sound ⟨r, s.operations ++ [.add d result],
      s.running ++ [⟨s.operations.length, load, result⟩]⟩ := by
  obtain ⟨hbegin, hdep, -⟩ := Load.begin_ok hb
  have hwell := h.wellFormed.begin hbegin
  obtain ⟨-, hticket, rfl⟩ := Registry.begin_ok hbegin
  have hnew : AddedAt (s.operations ++ [.add d result]) s.operations.length d result
      s.registry.nextGeneration := by
    rw [h.wellFormed.next_eq]
    exact AddedAt.last _ _ _
  refine { wellFormed := ?_, keys_eq := ?_, placed := ?_, listed := ?_ }
  · rw [added_snoc]
    exact hwell
  · show (s.registry.listings.insert d.name _).keys = _
    rw [standing_add, Table.keys_insert, Table.keys_insert, h.keys_eq]
  · intro p hp
    rcases List.mem_append.mp hp with hold | hmem
    · exact (h.placed p hold).snoc _
    · rw [List.mem_singleton] at hmem
      subst hmem
      refine ⟨?_, ?_⟩
      · show AddedAt _ _ load.dependency result load.ticket.generation
        rw [hdep, hticket]
        exact hnew
      · show load.ticket.name = load.dependency.name
        rw [hdep, hticket]
  · intro name l hl
    rcases Table.get?_insert_eq_some_iff.mp hl with ⟨rfl, rfl⟩ | ⟨hne, hold⟩
    · -- the new listing is loading, and its load is the one that was started
      refine ⟨s.operations.length, result, hnew, LastAt.last _ _ _, fun _ => rfl, ?_⟩
      intro hidle
      exact absurd (by simp [places]) hidle
    · obtain ⟨place, result', hadded, hlast, hshows⟩ := h.listed hold
      refine ⟨place, result', hadded.snoc _, hlast.snoc (Ne.symm hne), ?_⟩
      refine hshows.congr rfl ?_
      simp only [places, List.map_append, List.mem_append, List.map_singleton,
        List.mem_singleton]
      exact ⟨fun hmem => hmem.resolve_right (Nat.ne_of_lt hadded.lt), Or.inl⟩

theorem Sound.performUnload {s : Schedule} (h : s.Sound) (name : String) :
    Sound ⟨(s.registry.remove name).2, s.operations ++ [.unload name], s.running⟩ := by
  refine { wellFormed := ?_, keys_eq := ?_, placed := ?_, listed := ?_ }
  · rw [added_snoc]
    simpa [added] using h.wellFormed.remove name
  · show (s.registry.listings.erase name).keys = _
    rw [standing_unload, Table.keys_erase, Table.keys_erase, h.keys_eq]
  · intro p hp
    exact (h.placed p hp).snoc _
  · intro name' l hl
    obtain ⟨hne, hold⟩ := Table.get?_erase_eq_some_iff.mp hl
    obtain ⟨place, result, hadded, hlast, hshows⟩ := h.listed hold
    refine ⟨place, result, hadded.snoc _, hlast.snoc (Ne.symm hne), hshows.congr ?_ Iff.rfl⟩
    show (s.registry.bundles.erase name).get? name' = _
    rw [Table.get?_erase, if_neg hne]

/-- The listing that a running load's own operation left is the one its ticket
is good for. -/
theorem Sound.current_of_placed {s : Schedule} (h : s.Sound) {p : Running}
    (hp : p.Placed s.operations) {name : String} {l : Listing}
    {result : Except Error Bundle} (hl : s.registry.listings.get? name = some l)
    (hadded : AddedAt s.operations p.place l.dependency result l.generation) :
    name = p.load.ticket.name ∧ s.registry.current? p.load.ticket = some l := by
  obtain ⟨hdep, -, hgen⟩ := hadded.same hp.added
  have hname : name = p.load.ticket.name := by
    rw [← h.wellFormed.named hl, hdep, hp.name_eq]
  refine ⟨hname, Registry.current?_eq_some_iff.mpr ⟨?_, hgen⟩⟩
  rw [← hname]
  exact hl

/-- When the load of one place is gone, those of the others are still there. -/
theorem mem_places_others {running : List Running} {place gone : Nat} (hne : place ≠ gone) :
    place ∈ (running.filter (·.place ≠ gone)).map (·.place) ↔
      place ∈ running.map (·.place) := by
  simp only [List.mem_map, List.mem_filter, decide_eq_true_eq]
  constructor
  · rintro ⟨q, ⟨hq, -⟩, rfl⟩
    exact ⟨q, hq, rfl⟩
  · rintro ⟨q, hq, rfl⟩
    exact ⟨q, ⟨hq, hne⟩, rfl⟩

/-- Reporting a load turns the listing of its own operation, if that is still
there, from loading into the result. -/
theorem Sound.complete {s : Schedule} (h : s.Sound) {p : Running} (hp : p ∈ s.running) :
    Sound ⟨(p.load.finish s.registry p.result).registry, s.operations,
      s.running.filter (·.place ≠ p.place)⟩ := by
  have hplaced := h.placed p hp
  rw [Load.finish_registry]
  refine
    { wellFormed := h.wellFormed.conclude _ _
      keys_eq := (Registry.conclude_keys _ _ _).trans h.keys_eq
      placed := fun q hq => h.placed q (List.mem_filter.mp hq).1, listed := ?_ }
  cases hcur : s.registry.current? p.load.ticket with
  | none =>
    rw [Registry.conclude_stale hcur]
    intro name l hl
    obtain ⟨place, result, hadded, hlast, hshows⟩ := h.listed hl
    refine ⟨place, result, hadded, hlast, hshows.congr rfl (mem_places_others ?_)⟩
    rintro rfl
    rw [(h.current_of_placed hplaced hl hadded).2] at hcur
    cases hcur
  | some l₀ =>
    rw [Registry.conclude_current hcur]
    intro name l hl
    rcases Table.get?_insert_eq_some_iff.mp hl with ⟨rfl, rfl⟩ | ⟨hne, hold⟩
    · obtain ⟨hl₀, hgen⟩ := Registry.current?_eq_some_iff.mp hcur
      obtain ⟨place, result, hadded, hlast, -⟩ := h.listed hl₀
      have hplaced' := hplaced.added
      rw [← hgen] at hplaced'
      obtain ⟨rfl, -, rfl⟩ := hadded.unique hplaced'
      refine ⟨p.place, p.result, hadded, hlast, fun hmem => absurd hmem (by simp [places]), ?_⟩
      intro _
      refine ⟨rfl, ?_⟩
      rw [Table.get?_assign, if_pos rfl]
    · obtain ⟨place, result, hadded, hlast, hshows⟩ := h.listed hold
      refine ⟨place, result, hadded, hlast, hshows.congr ?_ (mem_places_others ?_)⟩
      · rw [Table.get?_assign, if_neg hne]
      · rintro rfl
        exact hne (h.current_of_placed hplaced hold hadded).1

theorem Sound.step {s : Schedule} (h : s.Sound) (c : Config) (e : Event) :
    (s.step c e).Sound := by
  cases e with
  | perform o =>
    cases o with
    | add d result =>
      cases hb : Load.begin c s.registry d with
      | error e =>
        simp only [Schedule.step, hb]
        exact h
      | ok begun =>
        obtain ⟨load, r⟩ := begun
        simp only [Schedule.step, hb]
        exact h.performAdd hb
    | unload name => exact h.performUnload name
  | complete place =>
    cases hp : s.running.find? (·.place = place) with
    | none =>
      simp only [Schedule.step, hp]
      exact h
    | some p =>
      simp only [Schedule.step, hp]
      have hplace : p.place = place := by simpa using List.find?_some hp
      rw [← hplace]
      exact h.complete (List.mem_of_find?_eq_some hp)

theorem run_sound (c : Config) (events : List Event) : (run c events).Sound := by
  induction events using List.reverseRecOn with
  | nil => exact Sound.start
  | append_singleton events e ih =>
    rw [run_snoc]
    exact ih.step c e

/-! ## Which operations take effect -/

/-- The operations asked for, in their order. -/
def asked (events : List Event) : List Operation :=
  events.filterMap fun
    | .perform o => some o
    | .complete _ => none

theorem asked_snoc (events : List Event) (e : Event) :
    asked (events ++ [e]) = asked events ++ asked [e] :=
  List.filterMap_append

/-- What is refused depends on what was asked for before, and not on which
loads have completed by then. -/
theorem run_operations (c : Config) (events : List Event) :
    (run c events).operations = accepted (asked events) := by
  induction events using List.reverseRecOn with
  | nil => rfl
  | append_singleton events e ih =>
    have hkeys := (run_sound c events).keys_eq
    rw [run_snoc, asked_snoc]
    cases e with
    | perform o =>
      show _ = accepted (asked events ++ [o])
      rw [accepted_snoc, ← ih, ← hkeys]
      cases o with
      | add d result =>
        cases hb : Load.begin c (run c events).registry d with
        | error e =>
          have hrefused : ¬ (Operation.add d result).Admitted
              (run c events).registry.listings.keys := by
            intro hadmits
            obtain ⟨load, r, hok⟩ := Load.begin_of_admits c hadmits
            rw [hb] at hok
            cases hok
          rw [if_neg hrefused]
          simp only [Schedule.step, hb]
        | ok begun =>
          obtain ⟨load, r⟩ := begun
          have hadmits : (Operation.add d result).Admitted
              (run c events).registry.listings.keys :=
            (Registry.begin_ok (Load.begin_ok hb).1).1
          rw [if_pos hadmits]
          simp only [Schedule.step, hb]
      | unload name =>
        have hadmits : (Operation.unload name).Admitted
            (run c events).registry.listings.keys := trivial
        rw [if_pos hadmits]
        rfl
    | complete place =>
      show _ = accepted (asked events ++ [])
      rw [List.append_nil, ← ih]
      simp only [Schedule.step]
      split <;> rfl

/-! ## When nothing is running -/

/-- The dependencies with their states, in the order in which they are
listed. -/
def shown (r : Registry) : List (Dependency × Status) :=
  r.dependencies.map fun l => (l.dependency, l.status)

/-- A registry in which all loads of these operations have been reported. -/
structure Settled (operations : List Operation) (r : Registry) : Prop where
  shown_eq : shown r = (standing operations).values.map fun e =>
    (e.1, (Verdict.ofResult e.2).status)
  listed_iff : ∀ name, r.isListed name = true ↔
    ∃ d result, lastOn name operations = some (.add d result)
  loaded : ∀ name d b, lastOn name operations = some (.add d (.ok b)) →
    ∃ l, r.listings.get? name = some l ∧ l.dependency = d ∧ l.status = .loaded ∧
      r.bundle? name = some b
  failed : ∀ name d e, lastOn name operations = some (.add d (.error e)) →
    ∃ l, r.listings.get? name = some l ∧ l.dependency = d ∧ l.status = .failed e.message ∧
      r.bundle? name = none
  unlisted_unbound : ∀ name, r.isListed name = false → r.bundle? name = none
  none_loading : ∀ l ∈ r.dependencies, l.status ≠ .loading

/-- With nothing running, a listing and its binding show the result of the
last operation on the name. -/
theorem Sound.result_of_listed {s : Schedule} (h : s.Sound) (hidle : s.running = [])
    {name : String} {l : Listing} (hl : s.registry.listings.get? name = some l) :
    ∃ result, (standing s.operations).get? name = some (l.dependency, result) ∧
      l.status = (Verdict.ofResult result).status ∧
      s.registry.bundles.get? name = (Verdict.ofResult result).bundle? := by
  obtain ⟨place, result, hadded, hlast, hshows⟩ := h.listed hl
  have hname := h.wellFormed.named hl
  subst hname
  have hlastOn : lastOn l.dependency.name s.operations = some (.add l.dependency result) :=
    lastOn_of_lastAt hadded.place_eq hlast
  refine ⟨result, ?_, hshows.2 (by simp [places, hidle])⟩
  rw [get?_standing, hlastOn]

/-- Conversely, what was added last is listed. -/
theorem Sound.listed_of_lastOn {s : Schedule} (h : s.Sound) (hidle : s.running = [])
    {name : String} {d : Dependency} {result : Except Error Bundle}
    (hlast : lastOn name s.operations = some (.add d result)) :
    ∃ l, s.registry.listings.get? name = some l ∧ l.dependency = d ∧
      l.status = (Verdict.ofResult result).status ∧
      s.registry.bundle? name = (Verdict.ofResult result).bundle? := by
  have hstanding : (standing s.operations).get? name = some (d, result) := by
    rw [get?_standing, hlast]
  have hkey : name ∈ s.registry.listings.keys := by
    rw [h.keys_eq]
    exact Table.mem_keys_iff.mpr ⟨_, hstanding⟩
  obtain ⟨l, hl⟩ := Table.mem_keys_iff.mp hkey
  obtain ⟨result', hresult, hstatus, hbound⟩ := h.result_of_listed hidle hl
  rw [hstanding] at hresult
  cases hresult
  exact ⟨l, hl, rfl, hstatus, hbound⟩

theorem Sound.settled {s : Schedule} (h : s.Sound) (hidle : s.running = []) :
    Settled s.operations s.registry := by
  refine
    { shown_eq := ?_, listed_iff := ?_
      loaded := fun name d b hlast => h.listed_of_lastOn hidle hlast
      failed := fun name d e hlast => h.listed_of_lastOn hidle hlast
      unlisted_unbound := ?_, none_loading := ?_ }
  · refine Table.map_values_eq h.keys_eq fun name l hl => ?_
    obtain ⟨result, hstanding, hstatus, -⟩ := h.result_of_listed hidle hl
    exact ⟨(l.dependency, result), hstanding, by rw [hstatus]⟩
  · intro name
    show s.registry.listings.contains name = true ↔ _
    rw [Table.contains_iff]
    constructor
    · intro hkey
      rw [h.keys_eq] at hkey
      obtain ⟨_, hstanding⟩ := Table.mem_keys_iff.mp hkey
      rw [get?_standing] at hstanding
      split at hstanding
      · rename_i d result hlast
        exact ⟨d, result, hlast⟩
      · cases hstanding
    · rintro ⟨d, result, hlast⟩
      obtain ⟨l, hl, -⟩ := h.listed_of_lastOn hidle hlast
      exact Table.mem_keys_iff.mpr ⟨l, hl⟩
  · intro name hunlisted
    apply h.wellFormed.unlisted_unbound
    rw [Table.get?_eq_none_iff, ← Table.contains_iff]
    show ¬ s.registry.isListed name = true
    rw [hunlisted]
    exact Bool.false_ne_true
  · intro l hl hloading
    obtain ⟨name, hget⟩ := Registry.mem_dependencies.mp hl
    obtain ⟨result, -, hstatus, -⟩ := h.result_of_listed hidle hget
    exact (Verdict.ofResult result).status_ne_loading (hstatus.symm.trans hloading)

/-- Bindings are determined by what is standing. -/
theorem Sound.bundle?_eq {s : Schedule} (h : s.Sound) (hidle : s.running = []) (name : String) :
    s.registry.bundle? name =
      ((standing s.operations).get? name).bind fun e => (Verdict.ofResult e.2).bundle? := by
  show s.registry.bundles.get? name = _
  cases hl : s.registry.listings.get? name with
  | none =>
    have hstanding : (standing s.operations).get? name = none := by
      rw [Table.get?_eq_none_iff, ← h.keys_eq, ← Table.get?_eq_none_iff, hl]
    rw [hstanding, h.wellFormed.unlisted_unbound hl]
    rfl
  | some l =>
    obtain ⟨result, hstanding, -, hbound⟩ := h.result_of_listed hidle hl
    rw [hstanding, hbound]
    rfl

/-- Two schedules of the same operations come to the same dependencies and
bindings when all loads have completed: those of the last operation on each
name.  A load that was overtaken never changes the registry on the way. -/
theorem settled_alike (c : Config) (events events' : List Event)
    (hasked : asked events = asked events')
    (hidle : (run c events).running = []) (hidle' : (run c events').running = []) :
    shown (run c events).registry = shown (run c events').registry ∧
    (∀ name, (run c events).registry.bundle? name = (run c events').registry.bundle? name) ∧
    (run c events).operations = accepted (asked events) ∧
    Settled (run c events).operations (run c events).registry ∧
    ∀ before, before <+: events → ∀ p ∈ (run c before).running, ∀ later o,
      p.place < later → (run c before).operations[later]? = some o →
      o.name = p.load.dependency.name →
      (p.load.finish (run c before).registry p.result).registry = (run c before).registry := by
  have h := run_sound c events
  have h' := run_sound c events'
  have hoperations : (run c events).operations = (run c events').operations := by
    rw [run_operations, run_operations, hasked]
  refine ⟨?_, ?_, run_operations c events, h.settled hidle, ?_⟩
  · rw [(h.settled hidle).shown_eq, (h'.settled hidle').shown_eq, hoperations]
  · intro name
    rw [h.bundle?_eq hidle, h'.bundle?_eq hidle', hoperations]
  · intro before _ p hp later o hlater ho hname
    refine (run_sound c before).finish_overtaken hp ?_
    intro hlast
    exact hlast later o hlater ho hname

/-- One dependency is added again, and one removed, while all loads are still running. -/
theorem settled_alike_overtaken :
    let first := Operation.add (.ofName "left" "1") (.ok (.ofEntry "one"))
    let other := Operation.add (.ofName "right" "1") (.error (.status "r" 404))
    let again := Operation.add (.ofName "left" "2") (.ok (.ofEntry "two"))
    let third := Operation.add (.ofName "up" "1") (.ok (.ofEntry "three"))
    let prompt : List Event := [.perform first, .complete 0, .perform other, .complete 1,
      .perform again, .complete 2, .perform third, .complete 3, .perform (.unload "up")]
    let overlapping : List Event := [.perform first, .perform other, .perform again,
      .perform third, .perform (.unload "up"), .complete 2, .complete 3, .complete 0, .complete 1]
    asked prompt = asked overlapping ∧
    (run .standard prompt).running = [] ∧ (run .standard overlapping).running = [] ∧
    shown (run .standard prompt).registry = shown (run .standard overlapping).registry ∧
    shown (run .standard overlapping).registry =
      [(.ofName "left" "2", .loaded),
        (.ofName "right" "1", .failed "failed to fetch r: HTTP 404")] := by
  intro first other again third prompt overlapping
  have hidle : (run .standard prompt).running = [] := List.isEmpty_iff.mp (by decide +kernel)
  have hidle' : (run .standard overlapping).running = [] := List.isEmpty_iff.mp (by decide +kernel)
  obtain ⟨hshown, -⟩ := settled_alike .standard prompt overlapping rfl hidle hidle'
  exact ⟨rfl, hidle, hidle', hshown, by decide +kernel⟩

end Schedule

end Playpen.Dependency
