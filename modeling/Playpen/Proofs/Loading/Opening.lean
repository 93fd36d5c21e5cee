import Playpen.Playground
import Playpen.Proofs.Loading.Refusal
import Mathlib.Data.List.Induction

/-!
# Opening a session

The loads of a session are started in the order of their specs, and then go on
in any order and to any end.

`Underway` is the invariant: `k` loads have been started, what is listed is
what `admitted` makes of the first `k` dependencies alone, every started task
answers for its own dependency, and a listing that is loading has a task that
still works on it.  The last clause is what leaves no listing loading when all
tasks have ended.
-/

namespace Playpen

open Dependency (Registry Reply Load Refuses FailsFetching)
open Dependency.Registry (Admits)

namespace Dependency

/-! ## What is listed in the end -/

/-- The dependencies that are listed, of those that are added one after the
other. -/
def admitted (ds : List Dependency) : List Dependency :=
  ds.foldl (fun kept d => if Admits (kept.map (·.name)) d then kept ++ [d] else kept) []

theorem admitted_snoc (ds : List Dependency) (d : Dependency) :
    admitted (ds ++ [d]) =
      if Admits ((admitted ds).map (·.name)) d then admitted ds ++ [d] else admitted ds := by
  unfold admitted
  rw [List.foldl_append]
  rfl

theorem Registry.admits_congr {names names' : List String} {d : Dependency}
    (h : ∀ name, name ∈ names ↔ name ∈ names') : Admits names d ↔ Admits names' d := by
  unfold Admits
  simp only [h]

/-- One more item keeps the list without repetitions, or is put at its end. -/
theorem eraseDups_snoc (names : List String) (name : String) :
    (names ++ [name]).eraseDups =
      if name ∈ names.eraseDups then names.eraseDups else names.eraseDups ++ [name] := by
  rw [List.eraseDups_append]
  by_cases h : name ∈ names
  · rw [if_pos (List.mem_eraseDups.mpr h)]
    simp [List.removeAll, h]
  · rw [if_neg (fun hmem => h (List.mem_eraseDups.mp hmem))]
    simp [List.removeAll, h, List.eraseDups_cons]

/-- A report changes the status of its own listing only, and that to one which
is not loading. -/
theorem Registry.listing_of_conclude {r : Registry} {t : Ticket} {v : Verdict} {name : String}
    {l : Listing} (h : (r.conclude t v).2.listings.get? name = some l) :
    ∃ l₀, r.listings.get? name = some l₀ ∧ l₀.dependency = l.dependency ∧
      (l.status = .loading → l₀ = l ∧ t ≠ ⟨name, l.generation⟩) := by
  cases hcur : r.current? t with
  | none =>
    rw [conclude_stale hcur] at h
    refine ⟨l, h, rfl, fun _ => ⟨rfl, ?_⟩⟩
    rintro rfl
    rw [current?_eq_some_iff.mpr ⟨h, rfl⟩] at hcur
    cases hcur
  | some l₁ =>
    rw [conclude_current hcur] at h
    rcases Table.get?_insert_eq_some_iff.mp h with ⟨rfl, rfl⟩ | ⟨hne, hold⟩
    · obtain ⟨hl₁, -⟩ := current?_eq_some_iff.mp hcur
      exact ⟨l₁, hl₁, rfl, fun hloading => absurd hloading v.status_ne_loading⟩
    · exact ⟨l, hold, rfl, fun _ => ⟨rfl, fun ht => hne (by rw [ht])⟩⟩

end Dependency

open Dependency (admitted)

namespace Playground

variable {p : Playground} {network : String → Reply} {i : Nat}

/-! ## One turn of a task -/

theorem progressAt_loading {l : Load} (h : p.tasks[i]? = some (.loading l)) :
    (progressAt network p i).2 =
      match (l.resume network).2 with
      | .waiting l' => { p with tasks := p.tasks.setIfInBounds i (.loading l') }
      | .fetched r => { p with
          registry := (l.settle p.config.limits p.registry r).registry
          tasks := p.tasks.setIfInBounds i
            (.ended (l.settle p.config.limits p.registry r).result) } := by
  cases hresume : l.resume network with
  | mk asked progress =>
    cases progress <;> simp only [progressAt, h, advance, pursue, hresume]

/-- A load that is refused has ended with that. -/
theorem progressAt_refused {d : Dependency} {e : Dependency.Error}
    (h : p.tasks[i]? = some (.queued d)) (hb : Load.begin p.config p.registry d = .error e) :
    (progressAt network p i).2 =
      { p with tasks := p.tasks.setIfInBounds i (.ended (.error e)) } := by
  simp only [progressAt, h, advance, hb]

/-- Starting a load is listing its dependency and going on from there. -/
theorem progressAt_begun {d : Dependency} {l : Load} {r : Registry}
    (h : p.tasks[i]? = some (.queued d)) (hb : Load.begin p.config p.registry d = .ok (l, r)) :
    (progressAt network p i).2 =
      (progressAt network
        { p with registry := r, tasks := p.tasks.setIfInBounds i (.loading l) } i).2 := by
  have hlt : i < p.tasks.size := (Array.getElem?_eq_some_iff.mp h).1
  have hset : ({ p with registry := r, tasks := p.tasks.setIfInBounds i (.loading l) } :
      Playground).tasks[i]? = some (.loading l) := by
    rw [Array.getElem?_setIfInBounds, if_pos rfl, if_pos hlt]
  rw [progressAt_loading hset]
  simp only [progressAt, h, advance, hb, pursue]
  cases hresume : l.resume network with
  | mk asked progress =>
    cases progress <;> simp only [Array.setIfInBounds_setIfInBounds]

theorem progressAt_of_none (h : p.tasks[i]? = none) : (progressAt network p i).2 = p := by
  simp only [progressAt, h]

theorem progressAt_ended {result : Except Dependency.Error Load.Outcome}
    (h : p.tasks[i]? = some (.ended result)) : (progressAt network p i).2 = p := by
  obtain ⟨hlt, hget⟩ := Array.getElem?_eq_some_iff.mp h
  have hset : p.tasks.setIfInBounds i (.ended result) = p.tasks := by
    rw [← hget, Array.setIfInBounds, dif_pos hlt, Array.set_getElem_self]
  simp only [progressAt, h, advance, hset]

/-! ## The invariant -/

/-- A task that has been started speaks for `d`: where `names` were listed, it
was refused for a reason, or else `d` has been listed and no refusal will
follow. -/
def Task.Answers (names : List String) (d : Dependency) : Task → Prop
  | .queued _ => False
  | .loading l => Admits names d ∧ ∀ e, l.walk = .error e → ¬ e.IsRefusal
  | .ended (.ok _) => Admits names d
  | .ended (.error e) => (Admits names d ∧ ¬ e.IsRefusal) ∨ Refuses names d e

/-- The names that the first dependencies leave listed. -/
def namesBefore (ds : List Dependency) (k : Nat) : List String :=
  (admitted (ds.take k)).map (·.name)

variable {ds : List Dependency} {k : Nat} {d : Dependency}

/-- Of the tasks for `ds`, the first `k` have been started and answer. -/
structure Started (ds : List Dependency) (k : Nat) (tasks : Array Task) : Prop where
  size_eq : tasks.size = ds.length
  queued : ∀ {i d}, k ≤ i → ds[i]? = some d → tasks[i]? = some (.queued d)
  answers : ∀ {i d}, i < k → ds[i]? = some d →
    ∃ task, tasks[i]? = some task ∧ task.Answers (namesBefore ds i) d

namespace Started

variable {tasks : Array Task} {task : Task}

theorem get?_set (h : Started ds k tasks) (hd : ds[i]? = some d) (j : Nat) :
    (tasks.setIfInBounds i task)[j]? = if i = j then some task else tasks[j]? := by
  have hlt : i < tasks.size := by
    rw [h.size_eq]
    exact (List.getElem?_eq_some_iff.mp hd).1
  rw [Array.getElem?_setIfInBounds, if_pos hlt]

/-- A task that was started becomes another that answers as well, or the next
task is started. -/
theorem set (h : Started ds k tasks) {k' : Nat} (hk' : k' = k ∨ k' = i + 1 ∧ i = k)
    (hi : i < k') (hd : ds[i]? = some d) (htask : task.Answers (namesBefore ds i) d) :
    Started ds k' (tasks.setIfInBounds i task) where
  size_eq := by
    rw [Array.size_setIfInBounds]
    exact h.size_eq
  queued hkj hd' := by
    rw [h.get?_set hd, if_neg (by omega)]
    exact h.queued (by omega) hd'
  answers := by
    intro j d' hjk hd'
    rw [h.get?_set hd]
    by_cases hij : i = j
    · subst hij
      rw [hd] at hd'
      cases hd'
      exact ⟨task, if_pos rfl, htask⟩
    · rw [if_neg hij]
      exact h.answers (by omega) hd'

end Started

/-- Of the loads of `ds`, the first `k` have been started. -/
structure Underway (ds : List Dependency) (k : Nat) (p : Playground) : Prop where
  tasks : Started ds k p.tasks
  wellFormed : p.registry.WellFormed (admitted (ds.take k))
  keys_eq : p.registry.listings.keys = (namesBefore ds k).eraseDups
  /-- A listing shows the dependency that was admitted last under its name. -/
  latest : ∀ {name l}, p.registry.listings.get? name = some l →
    (admitted (ds.take k)).reverse.find? (·.name = name) = some l.dependency
  /-- A listing that is loading has a load that will report to it. -/
  pending : ∀ {name l}, p.registry.listings.get? name = some l → l.status = .loading →
    ∃ (i : Nat) (load : Load), p.tasks[i]? = some (.loading load) ∧
      load.ticket = ⟨name, l.generation⟩

namespace Underway

theorem take_succ_eq (hd : ds[k]? = some d) : ds.take (k + 1) = ds.take k ++ [d] := by
  rw [List.take_add_one, hd]
  rfl

theorem admits_iff (h : Underway ds k p) (d : Dependency) :
    Admits p.registry.listings.keys d ↔ Admits (namesBefore ds k) d := by
  rw [h.keys_eq]
  exact Registry.admits_congr fun _ => List.mem_eraseDups

/-- The load of a task that is queued works on no listing. -/
theorem pending_ne (h : Underway ds k p) (hd : ds[k]? = some d) {j : Nat} {load : Load}
    (hload : p.tasks[j]? = some (.loading load)) : k ≠ j := by
  rintro rfl
  rw [h.tasks.queued (Nat.le_refl k) hd] at hload
  cases hload

/-- The next load is refused: nothing is listed, and its task says why. -/
theorem refuse (h : Underway ds k p) (hd : ds[k]? = some d) (hname : d.name ≠ "")
    {e : Dependency.Error} (hb : Load.begin p.config p.registry d = .error e) :
    Underway ds (k + 1) { p with tasks := p.tasks.setIfInBounds k (.ended (.error e)) } := by
  have hrefuses : Refuses p.registry.listings.keys d e := by
    unfold Load.begin at hb
    rcases bind_eq_error.mp hb with hbegin | ⟨_, -, hok⟩
    · exact Registry.begin_error hbegin hname
    · cases hok
  have hrefuses' : Refuses (namesBefore ds k) d e := by
    refine hrefuses.mono fun name hmem => ?_
    rw [h.keys_eq] at hmem
    exact List.mem_eraseDups.mp hmem
  have hkept : admitted (ds.take (k + 1)) = admitted (ds.take k) := by
    rw [take_succ_eq hd, Dependency.admitted_snoc]
    apply if_neg
    intro hadmits
    obtain ⟨l, r, hok⟩ := Load.begin_of_admits p.config ((h.admits_iff d).mpr hadmits)
    rw [hb] at hok
    cases hok
  refine
    { tasks := h.tasks.set (Or.inr ⟨rfl, rfl⟩) (Nat.lt_succ_self k) hd (Or.inr hrefuses')
      wellFormed := hkept.symm ▸ h.wellFormed, keys_eq := ?_, latest := ?_, pending := ?_ }
  · unfold namesBefore
    rw [hkept]
    exact h.keys_eq
  · intro name l hl
    rw [hkept]
    exact h.latest hl
  · intro name l hl hloading
    obtain ⟨j, load, hload, hticket⟩ := h.pending hl hloading
    refine ⟨j, load, ?_, hticket⟩
    rw [h.tasks.get?_set hd, if_neg (h.pending_ne hd hload)]
    exact hload

/-- The next load begins: its dependency is listed, and it is the one that
works on the listing. -/
theorem list (h : Underway ds k p) (hd : ds[k]? = some d) {l : Load} {r : Registry}
    (hb : Load.begin p.config p.registry d = .ok (l, r)) :
    Underway ds (k + 1)
      { p with registry := r, tasks := p.tasks.setIfInBounds k (.loading l) } := by
  obtain ⟨hbegin, -, hwalk⟩ := Load.begin_ok hb
  have hwell := h.wellFormed.begin hbegin
  obtain ⟨hadmits, hticket, hr⟩ := Registry.begin_ok hbegin
  have hadmits' : Admits (namesBefore ds k) d := (h.admits_iff d).mp hadmits
  have hkept : admitted (ds.take (k + 1)) = admitted (ds.take k) ++ [d] := by
    rw [take_succ_eq hd, Dependency.admitted_snoc]
    exact if_pos hadmits'
  have hanswers : (Task.loading l).Answers (namesBefore ds k) d := by
    refine ⟨hadmits', fun e he => ?_⟩
    rw [hwalk] at he
    cases hurl : d.moduleUrl p.config.cdnBase with
    | ok entry =>
      rw [hurl] at he
      cases he
    | error e' =>
      rw [hurl] at he
      cases he
      obtain ⟨message, rfl⟩ := Dependency.moduleUrl_error hurl
      exact id
  refine
    { tasks := h.tasks.set (Or.inr ⟨rfl, rfl⟩) (Nat.lt_succ_self k) hd hanswers
      wellFormed := hkept.symm ▸ hwell, keys_eq := ?_, latest := ?_, pending := ?_ }
  · unfold namesBefore
    rw [hkept, List.map_append, List.map_singleton, Dependency.eraseDups_snoc, hr]
    show (p.registry.listings.insert d.name _).keys = _
    rw [Table.keys_insert, h.keys_eq]
    rfl
  · intro name l' hl'
    rw [hkept, List.reverse_append, List.reverse_singleton, List.singleton_append,
      List.find?_cons]
    rw [hr] at hl'
    rcases Table.get?_insert_eq_some_iff.mp hl' with ⟨rfl, rfl⟩ | ⟨hne, hold⟩
    · simp
    · simp only [Ne.symm hne, decide_false]
      exact h.latest hold
  · intro name l' hl' hloading
    rw [hr] at hl'
    rcases Table.get?_insert_eq_some_iff.mp hl' with ⟨rfl, rfl⟩ | ⟨-, hold⟩
    · refine ⟨k, l, ?_, hticket⟩
      rw [h.tasks.get?_set hd, if_pos rfl]
    · obtain ⟨j, load, hload, hticket'⟩ := h.pending hold hloading
      refine ⟨j, load, ?_, hticket'⟩
      rw [h.tasks.get?_set hd, if_neg (h.pending_ne hd hload)]
      exact hload

/-- A load that was started waits for more. -/
theorem wait (h : Underway ds k p) (hi : i < k) (hd : ds[i]? = some d) {l l' : Load}
    (htask : p.tasks[i]? = some (.loading l)) (hl : (l.resume network).2 = .waiting l') :
    Underway ds k { p with tasks := p.tasks.setIfInBounds i (.loading l') } := by
  obtain ⟨hsame, w, hw⟩ := Load.resume_waiting hl
  obtain ⟨task, hget, hanswers⟩ := h.tasks.answers hi hd
  rw [htask] at hget
  cases hget
  have hanswers' : (Task.loading l').Answers (namesBefore ds i) d := by
    refine ⟨hanswers.1, fun e he => ?_⟩
    rw [hw] at he
    cases he
  refine
    { tasks := h.tasks.set (Or.inl rfl) hi hd hanswers', wellFormed := h.wellFormed
      keys_eq := h.keys_eq, latest := h.latest, pending := ?_ }
  intro name listing hlisting hloading
  obtain ⟨j, load, hload, hticket⟩ := h.pending hlisting hloading
  by_cases hij : i = j
  · subst hij
    rw [htask] at hload
    cases hload
    refine ⟨i, l', ?_, hsame.trans hticket⟩
    rw [h.tasks.get?_set hd, if_pos rfl]
  · refine ⟨j, load, ?_, hticket⟩
    rw [h.tasks.get?_set hd, if_neg hij]
    exact hload

/-- A load that was started ends: its own listing is not loading any more, and
no other has changed. -/
theorem settle (h : Underway ds k p) (hnetwork : FailsFetching network) (hi : i < k)
    (hd : ds[i]? = some d) {l : Load} {fetched : Except Dependency.Error Dependency.Bundle}
    (htask : p.tasks[i]? = some (.loading l)) (hl : (l.resume network).2 = .fetched fetched) :
    Underway ds k { p with
      registry := (l.settle p.config.limits p.registry fetched).registry
      tasks := p.tasks.setIfInBounds i
        (.ended (l.settle p.config.limits p.registry fetched).result) } := by
  obtain ⟨task, hget, hanswers⟩ := h.tasks.answers hi hd
  rw [htask] at hget
  cases hget
  obtain ⟨hadmits, hwalk⟩ := hanswers
  have hended : (Task.ended (l.settle p.config.limits p.registry fetched).result).Answers
      (namesBefore ds i) d := by
    cases hresult : (l.settle p.config.limits p.registry fetched).result with
    | ok outcome => exact hadmits
    | error e =>
      refine Or.inl ⟨hadmits, Load.settle_result_error (fun e' he' => ?_) hresult⟩
      rw [he'] at hl
      exact Load.resume_fetched hnetwork hwalk hl
  refine
    { tasks := h.tasks.set (Or.inl rfl) hi hd hended, wellFormed := ?_, keys_eq := ?_
      latest := ?_, pending := ?_ }
  · rw [Load.settle_registry]
    exact h.wellFormed.conclude _ _
  · rw [Load.settle_registry]
    exact (Registry.conclude_keys _ _ _).trans h.keys_eq
  · intro name listing hlisting
    rw [Load.settle_registry] at hlisting
    obtain ⟨old, hold, hsame, -⟩ := Registry.listing_of_conclude hlisting
    rw [← hsame]
    exact h.latest hold
  · intro name listing hlisting hloading
    rw [Load.settle_registry] at hlisting
    obtain ⟨old, hold, -, hquiet⟩ := Registry.listing_of_conclude hlisting
    obtain ⟨rfl, hother⟩ := hquiet hloading
    obtain ⟨j, load, hload, hticket⟩ := h.pending hold hloading
    refine ⟨j, load, ?_, hticket⟩
    have hij : i ≠ j := by
      rintro rfl
      rw [htask] at hload
      cases hload
      exact hother hticket
    rw [h.tasks.get?_set hd, if_neg hij]
    exact hload

/-- Whatever task has its turn once it has been started, and however far it
comes, the invariant is kept. -/
theorem goOn (h : Underway ds k p) (hnetwork : FailsFetching network)
    (hstarted : i < ds.length → i < k) : Underway ds k (progressAt network p i).2 := by
  cases hd : ds[i]? with
  | none =>
    have hnone : p.tasks[i]? = none := by
      rw [Array.getElem?_eq_none_iff, h.tasks.size_eq]
      exact List.getElem?_eq_none_iff.mp hd
    rw [progressAt_of_none hnone]
    exact h
  | some d =>
    have hi : i < k := hstarted (List.getElem?_eq_some_iff.mp hd).1
    obtain ⟨task, htask, hanswers⟩ := h.tasks.answers hi hd
    cases task with
    | queued d' => exact absurd hanswers id
    | ended result =>
      rw [progressAt_ended htask]
      exact h
    | loading l =>
      rw [progressAt_loading htask]
      cases hl : (l.resume network).2 with
      | waiting l' => exact h.wait hi hd htask hl
      | fetched fetched => exact h.settle hnetwork hi hd htask hl

/-- The first turn of a task is to start. -/
theorem start (h : Underway ds k p) (hnetwork : FailsFetching network) (hd : ds[k]? = some d)
    (hname : d.name ≠ "") : Underway ds (k + 1) (progressAt network p k).2 := by
  have hqueued := h.tasks.queued (Nat.le_refl k) hd
  cases hb : Load.begin p.config p.registry d with
  | error e =>
    rw [progressAt_refused hqueued hb]
    exact h.refuse hd hname hb
  | ok begun =>
    obtain ⟨l, r⟩ := begun
    rw [progressAt_begun hqueued hb]
    exact (h.list hd hb).goOn hnetwork fun _ => Nat.lt_succ_self k

end Underway

/-! ## All loads of a session -/

theorem foldl_spawn (ds : List Dependency) (p : Playground) :
    ds.foldl (fun p d => (p.spawn d).2) p =
      { p with tasks := p.tasks ++ (ds.map Task.queued).toArray } := by
  induction ds generalizing p with
  | nil => simp
  | cons d ds ih =>
    rw [List.foldl_cons, ih]
    simp [spawn]

theorem attend_append (p : Playground) (turns turns' : List (Nat × (String → Reply))) :
    p.attend (turns ++ turns') = (p.attend turns).attend turns' := by
  unfold attend
  rw [List.foldl_append]

namespace Underway

theorem queue (c : Config) (ds : List Dependency) :
    Underway ds 0 (ds.foldl (fun p d => (p.spawn d).2) (Playground.new c)) := by
  rw [foldl_spawn]
  refine
    { tasks := ⟨by simp [Playground.new], ?_, fun hlt => absurd hlt (Nat.not_lt_zero _)⟩
      wellFormed := Registry.WellFormed.empty, keys_eq := rfl, latest := ?_, pending := ?_ }
  · intro i d _ hd
    simp [Playground.new, hd]
  · intro name l hl
    cases hl
  · intro name l hl
    cases hl

/-- All loads are started, in the order of their specs. -/
theorem startAll (h : Underway ds 0 p) (hnames : ∀ d ∈ ds, d.name ≠ "")
    {first : Nat → String → Reply} (hfirst : ∀ i, FailsFetching (first i)) :
    ∀ k ≤ ds.length, Underway ds k (p.attend ((List.range k).map fun i => (i, first i)))
  | 0, _ => h
  | k + 1, hk => by
      rw [List.range_succ, List.map_append, attend_append]
      have hd : ds[k]? = some ds[k] := List.getElem?_eq_getElem hk
      exact (h.startAll hnames hfirst k (Nat.le_of_succ_le hk)).start (hfirst k) hd
        (hnames _ (List.getElem_mem hk))

/-- Then they go on, whichever has its turn. -/
theorem goOnAll (h : Underway ds ds.length p) {turns : List (Nat × (String → Reply))}
    (hturns : ∀ turn ∈ turns, FailsFetching turn.2) : Underway ds ds.length (p.attend turns) := by
  induction turns generalizing p with
  | nil => exact h
  | cons turn turns ih =>
    have hnext : Underway ds ds.length (progressAt turn.2 p turn.1).2 :=
      h.goOn (hturns turn List.mem_cons_self) id
    exact ih hnext fun turn' hmem => hturns turn' (List.mem_cons_of_mem turn hmem)

end Underway

end Playground

end Playpen
