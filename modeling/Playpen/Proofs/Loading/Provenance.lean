import Playpen.Proofs.Loading.Basic
import Playpen.Proofs.Walk.Pursuit

/-!
# Where a binding comes from

A loader with all its loads under way: each walks through its modules as the
network lets it, and reports when it is done, while other loads begin, walk and
report, and dependencies are removed and added again.  The network need not
answer alike twice.

What ends up bound under a name was brought by a load of a dependency of that
name.  While a listing says loaded, it was the load of the very dependency that
is listed; the ticket ties the two together.
-/

namespace Playpen.Dependency

/-! ## What a load brings -/

/-- The bundle `b` is one that a load of `d` may bind: it starts at the entry
module of `d`, holds a source for it and for everything that is imported, is
not too large, and has been tried. -/
structure Bundle.BroughtBy (c : Config) (d : Dependency) (b : Bundle) : Prop where
  entry_eq : ∃ entry, d.moduleUrl c.cdnBase = .ok entry ∧ b.entry = entry.text
  has_entry : ∃ source, b.source? b.entry = some source
  closed : ∃ modules : List (Url × String),
    b.sources.entries = modules.map (fun m => (m.1.text, m.2)) ∧
    ∀ m ∈ modules, ImportsWithin m b.urls
  tried : Load.tried c.limits d.name b = .ok b
  size_le : b.size ≤ max c.maxModules 1

theorem Bundle.Gathers.broughtBy {c : Config} {d : Dependency} {b : Bundle} {entry : Url}
    {modules : List (Url × String)} (h : b.Gathers entry c.maxModules modules)
    (hentry : d.moduleUrl c.cdnBase = .ok entry)
    (htried : Load.tried c.limits d.name b = .ok b) : b.BroughtBy c d := by
  have hexp := h.explored
  refine
    { entry_eq := ⟨entry, hentry, h.entry_eq⟩, has_entry := ?_
      closed := ⟨modules, h.sources_eq, ?_⟩, tried := htried, size_le := ?_ }
  · have hmem : b.entry ∈ b.urls := by
      rw [h.urls_eq, h.entry_eq]
      exact List.mem_map_of_mem (List.mem_of_head? hexp.first)
    exact Table.mem_keys_iff.mp hmem
  · intro m hm
    rw [h.urls_eq]
    exact hexp.closed m hm
  · have hsize : b.size = b.urls.length := by
      simp [Bundle.size, Bundle.urls, Table.size, Table.keys]
    rw [hsize, h.urls_eq, List.length_map]
    exact hexp.size

namespace Load

/-- The walk of a load is one through the modules of its dependency. -/
def Walks (c : Config) (l : Load) : Prop :=
  ∀ w, l.walk = .ok w → ∃ entry replies requests modules,
    l.dependency.moduleUrl c.cdnBase = .ok entry ∧
    w.Follows entry c.maxModules replies replies requests modules

/-- A fetched result, if it is one of modules, has gathered those of the
dependency. -/
def Fetches (c : Config) (l : Load) (result : Except Error Bundle) : Prop :=
  ∀ b, result = .ok b → ∃ entry modules,
    l.dependency.moduleUrl c.cdnBase = .ok entry ∧ b.Gathers entry c.maxModules modules

variable {c : Config} {r r' : Registry} {d : Dependency} {l : Load}

theorem Walks.begin (h : Load.begin c r d = .ok (l, r')) : l.Walks c := by
  obtain ⟨-, hdep, hwalk⟩ := begin_ok h
  intro w hw
  rw [hwalk] at hw
  cases hentry : d.moduleUrl c.cdnBase with
  | error e =>
    rw [hentry] at hw
    cases hw
  | ok entry =>
    rw [hentry] at hw
    cases hw
    exact ⟨entry, [], [], [], hdep ▸ hentry, Walk.Follows.start _ _ _⟩

theorem resume_ok {w : Walk} (h : l.walk = .ok w) (network : String → Reply) :
    (l.resume network).2 =
      match (w.resume network).2 with
      | .waiting w' => .waiting { l with walk := .ok w' }
      | .failed e => .fetched (.error e)
      | .finished b => .fetched (.ok b) := by
  cases hresume : w.resume network with
  | mk asked progress =>
    cases progress <;> simp only [Load.resume, h, hresume]

theorem resume_error {e : Error} (h : l.walk = .error e) (network : String → Reply) :
    (l.resume network).2 = .fetched (.error e) := by
  unfold Load.resume
  rw [h]

end Load

/-! ## Loads under way -/

/-- A load that has not reported yet. -/
inductive Flight where
  | walking (l : Load)
  | fetched (l : Load) (result : Except Error Bundle)

namespace Flight

def load : Flight → Load
  | walking l => l
  | fetched l _ => l

/-- Goes on as far as the network lets it. -/
def resume (network : String → Reply) : Flight → Flight
  | walking l =>
    match (l.resume network).2 with
    | .waiting l' => walking l'
    | .fetched result => fetched l result
  | fetched l result => fetched l result

/-- A flight follows the modules of its own dependency. -/
def Follows (c : Config) : Flight → Prop
  | walking l => l.Walks c
  | fetched l result => l.Fetches c result

/-- It does, and holds the ticket that was handed out for the dependency. -/
structure Sound (c : Config) (begun : List Dependency) (f : Flight) : Prop where
  issued : Registry.Issued begun f.load.dependency f.load.ticket
  follows : f.Follows c

variable {c : Config} {begun : List Dependency} {f : Flight}

theorem Sound.append (h : f.Sound c begun) (more : List Dependency) :
    f.Sound c (begun ++ more) :=
  ⟨h.issued.append more, h.follows⟩

theorem Sound.resume (h : f.Sound c begun) (network : String → Reply) :
    (f.resume network).Sound c begun := by
  obtain ⟨hissued, hfollows⟩ := h
  cases f with
  | fetched l result => exact ⟨hissued, hfollows⟩
  | walking l =>
    cases hwalk : l.walk with
    | error e =>
      simp only [Flight.resume, Load.resume_error hwalk]
      refine ⟨hissued, ?_⟩
      intro b hb
      cases hb
    | ok w =>
      obtain ⟨entry, replies, requests, modules, hentry, hw⟩ := hfollows w hwalk
      have hagrees := hw.resume network
      cases hprogress : (w.resume network).2 with
      | waiting w' =>
        simp only [Flight.resume, Load.resume_ok hwalk, hprogress]
        rw [hprogress] at hagrees
        obtain ⟨⟨modules', hw'⟩, -⟩ := hagrees
        refine ⟨hissued, ?_⟩
        intro w'' heq
        cases heq
        exact ⟨entry, _, _, modules', hentry, hw'⟩
      | failed e =>
        simp only [Flight.resume, Load.resume_ok hwalk, hprogress]
        refine ⟨hissued, ?_⟩
        intro b hb
        cases hb
      | finished b =>
        simp only [Flight.resume, Load.resume_ok hwalk, hprogress]
        rw [hprogress] at hagrees
        obtain ⟨modules', hgathers, -⟩ := hagrees
        refine ⟨hissued, ?_⟩
        intro b' hb
        cases hb
        exact ⟨entry, modules', hentry, hgathers⟩

end Flight

/-! ## The loader -/

/-- A registry, the dependencies it has listed so far, in order, and the loads
that have not reported yet. -/
structure Loader where
  registry : Registry
  begun : List Dependency
  flights : List Flight

namespace Loader

/-- What happens next.  Loads under way are numbered from the oldest. -/
inductive Action where
  | load (d : Dependency)
  /-- A load is resumed with what the network says by now. -/
  | resume (flight : Nat) (network : String → Reply)
  /-- A load that has fetched everything, or failed to, reports. -/
  | report (flight : Nat)
  | unload (name : String)

def start : Loader := ⟨.empty, [], []⟩

def step (s : Loader) (c : Config) : Action → Loader
  | .load d =>
    match Load.begin c s.registry d with
    | .ok (l, r) => ⟨r, s.begun ++ [d], s.flights ++ [.walking l]⟩
    | .error _ => s
  | .resume flight network =>
    match s.flights[flight]? with
    | some f => { s with flights := s.flights.set flight (f.resume network) }
    | none => s
  | .report flight =>
    match s.flights[flight]? with
    | some (.fetched l result) =>
      { s with
        registry := (l.settle c.limits s.registry result).registry
        flights := s.flights.eraseIdx flight }
    | _ => s
  | .unload name => { s with registry := (s.registry.remove name).2 }

/-- Plays actions one after the other, from an empty registry. -/
def run (c : Config) (actions : List Action) : Loader := actions.foldl (·.step c) start

theorem run_snoc (c : Config) (actions : List Action) (a : Action) :
    run c (actions ++ [a]) = (run c actions).step c a := by
  unfold run
  rw [List.foldl_append]
  rfl

/-! ## The invariant -/

/-- A bundle that is bound where `l` is listed was brought by one of the
dependencies of that name: the listed one when it is loaded, an earlier one
while it is loading. -/
def Traced (c : Config) (begun : List Dependency) (l : Listing) (b : Bundle) : Prop :=
  ∃ i d, begun[i]? = some d ∧ d.name = l.dependency.name ∧ b.BroughtBy c d ∧
    (l.status = .loaded → i = l.generation) ∧ (l.status = .loading → i < l.generation)

/-- What holds between any two actions. -/
structure Sound (c : Config) (s : Loader) : Prop where
  wellFormed : s.registry.WellFormed s.begun
  flights : ∀ f ∈ s.flights, f.Sound c s.begun
  traced : ∀ {name l b}, s.registry.listings.get? name = some l →
    s.registry.bundles.get? name = some b → Traced c s.begun l b

theorem Traced.append {c : Config} {begun : List Dependency} {l : Listing} {b : Bundle}
    (h : Traced c begun l b) (more : List Dependency) : Traced c (begun ++ more) l b := by
  obtain ⟨i, d, hi, hrest⟩ := h
  refine ⟨i, d, ?_, hrest⟩
  rw [List.getElem?_append_left (List.getElem?_eq_some_iff.mp hi).1]
  exact hi

variable {c : Config} {s : Loader}

theorem Sound.start : start.Sound c where
  wellFormed := Registry.WellFormed.empty
  flights f hf := absurd hf List.not_mem_nil
  traced hl := by cases hl

/-- Listing a name again leaves what is bound, as the bundle of an earlier
load. -/
theorem Sound.load (h : s.Sound c) {d : Dependency} {l : Load} {r : Registry}
    (hb : Load.begin c s.registry d = .ok (l, r)) :
    Sound c ⟨r, s.begun ++ [d], s.flights ++ [.walking l]⟩ := by
  obtain ⟨hbegin, hdep, -⟩ := Load.begin_ok hb
  have hissued := h.wellFormed.issued_of_begin hbegin
  have hwell := h.wellFormed.begin hbegin
  obtain ⟨-, -, rfl⟩ := Registry.begin_ok hbegin
  refine { wellFormed := hwell, flights := ?_, traced := ?_ }
  · intro f hf
    rcases List.mem_append.mp hf with hold | hnew
    · exact (h.flights f hold).append [d]
    · rw [List.mem_singleton] at hnew
      subst hnew
      refine ⟨?_, Load.Walks.begin hb⟩
      show Registry.Issued _ l.dependency l.ticket
      rw [hdep]
      exact hissued
  · intro name l' b hl hbound
    rcases Table.get?_insert_eq_some_iff.mp hl with ⟨rfl, rfl⟩ | ⟨-, hold⟩
    · cases hold : s.registry.listings.get? d.name with
      | none =>
        have hunbound := h.wellFormed.unlisted_unbound hold
        rw [hunbound] at hbound
        cases hbound
      | some l₀ =>
        obtain ⟨i, d', hi, hname, hbrought, -⟩ := h.traced hold hbound
        have hlt : i < s.registry.nextGeneration := by
          rw [h.wellFormed.next_eq]
          exact (List.getElem?_eq_some_iff.mp hi).1
        refine Traced.append ⟨i, d', hi, ?_, hbrought, ?_, fun _ => hlt⟩ [d]
        · rw [hname, h.wellFormed.named hold]
        · intro hloaded
          cases hloaded
    · exact (h.traced hold hbound).append [d]

theorem Sound.resume (h : s.Sound c) {flight : Nat} {f : Flight} (hf : f ∈ s.flights)
    (network : String → Reply) :
    Sound c { s with flights := s.flights.set flight (f.resume network) } := by
  refine { wellFormed := h.wellFormed, flights := ?_, traced := h.traced }
  intro f' hf'
  rcases List.mem_or_eq_of_mem_set hf' with hold | rfl
  · exact h.flights f' hold
  · exact (h.flights f hf).resume network

/-- A report that comes in time binds what its own load has brought, under the
dependency that load was begun for. -/
theorem Sound.report (h : s.Sound c) {flight : Nat} {l : Load} {result : Except Error Bundle}
    (hf : Flight.fetched l result ∈ s.flights) :
    Sound c { s with
      registry := (l.settle c.limits s.registry result).registry
      flights := s.flights.eraseIdx flight } := by
  obtain ⟨hissued, hfetches⟩ := h.flights _ hf
  rw [Load.settle_registry]
  refine { wellFormed := h.wellFormed.conclude _ _, flights := ?_, traced := ?_ }
  · intro f hmem
    exact h.flights f (List.mem_of_mem_eraseIdx hmem)
  · cases hcur : s.registry.current? l.ticket with
    | none =>
      rw [Registry.conclude_stale hcur]
      exact h.traced
    | some l₀ =>
      rw [Registry.conclude_current hcur]
      intro name l' b hl hbound
      rw [Table.get?_assign] at hbound
      rcases Table.get?_insert_eq_some_iff.mp hl with ⟨rfl, rfl⟩ | ⟨hne, hold⟩
      · rw [if_pos rfl] at hbound
        obtain ⟨hfetched, htried⟩ :=
          Load.bind_tried_ok (Verdict.bundle?_ofResult_eq_some_iff.mp hbound)
        obtain ⟨entry, modules, hentry, hgathers⟩ := hfetches b hfetched
        have hdep := h.wellFormed.dependency_of_current hissued hcur
        obtain ⟨-, hgen⟩ := Registry.current?_eq_some_iff.mp hcur
        refine ⟨l.ticket.generation, l.dependency, hissued.1, ?_,
          hgathers.broughtBy hentry htried, fun _ => hgen.symm, ?_⟩
        · exact congrArg Dependency.name hdep.symm
        · intro hloading
          exact absurd hloading (Verdict.status_ne_loading _)
      · rw [if_neg hne] at hbound
        exact h.traced hold hbound

theorem Sound.unload (h : s.Sound c) (name : String) :
    Sound c { s with registry := (s.registry.remove name).2 } := by
  refine { wellFormed := h.wellFormed.remove name, flights := h.flights, traced := ?_ }
  intro name' l b hl hbound
  obtain ⟨-, hold⟩ := Table.get?_erase_eq_some_iff.mp hl
  exact h.traced hold (Table.get?_erase_eq_some_iff.mp hbound).2

theorem Sound.step (h : s.Sound c) (a : Action) : (s.step c a).Sound c := by
  cases a with
  | load d =>
    cases hb : Load.begin c s.registry d with
    | error e =>
      simp only [Loader.step, hb]
      exact h
    | ok begun =>
      obtain ⟨l, r⟩ := begun
      simp only [Loader.step, hb]
      exact h.load hb
  | resume flight network =>
    cases hf : s.flights[flight]? with
    | none =>
      simp only [Loader.step, hf]
      exact h
    | some f =>
      simp only [Loader.step, hf]
      exact h.resume (List.mem_of_getElem? hf) network
  | report flight =>
    cases hf : s.flights[flight]? with
    | none =>
      simp only [Loader.step, hf]
      exact h
    | some f =>
      cases f with
      | walking l =>
        simp only [Loader.step, hf]
        exact h
      | fetched l result =>
        simp only [Loader.step, hf]
        exact h.report (List.mem_of_getElem? hf)
  | unload name => exact h.unload name

theorem run_sound (c : Config) (actions : List Action) : (run c actions).Sound c := by
  induction actions using List.reverseRecOn with
  | nil => exact Sound.start
  | append_singleton actions a ih =>
    rw [run_snoc]
    exact ih.step a

/-- A load that nothing has overtaken does bind what it brought. -/
theorem Sound.report_binds (h : s.Sound c) {flight : Nat} {l : Load} {b : Bundle}
    (hf : s.flights[flight]? = some (.fetched l (.ok b)))
    (hcur : s.registry.current? l.ticket ≠ none)
    (htried : Load.tried c.limits l.dependency.name b = .ok b) :
    (s.step c (.report flight)).registry.bundle? l.dependency.name = some b ∧
      ∃ l', (s.step c (.report flight)).registry.listings.get? l.dependency.name = some l' ∧
        l'.dependency = l.dependency ∧ l'.status = .loaded := by
  have hissued : Registry.Issued s.begun l.dependency l.ticket :=
    (h.flights _ (List.mem_of_getElem? hf)).issued
  obtain ⟨l₀, hl₀⟩ := Option.ne_none_iff_exists'.mp hcur
  have hregistry : (s.step c (.report flight)).registry =
      (s.registry.conclude l.ticket (.bound b)).2 := by
    simp only [Loader.step, hf, Load.settle_registry]
    show (s.registry.conclude l.ticket
      (Verdict.ofResult (Load.tried c.limits l.dependency.name b))).2 = _
    rw [htried]
    rfl
  rw [hregistry, Registry.conclude_current hl₀, ← hissued.2]
  refine ⟨?_, { l₀ with status := .loaded }, ?_, ?_, rfl⟩
  · show (s.registry.bundles.assign l.ticket.name (some b)).get? l.ticket.name = some b
    rw [Table.get?_assign, if_pos rfl]
  · rw [Table.get?_insert, if_pos rfl]
    rfl
  · show l₀.dependency = l.dependency
    exact h.wellFormed.dependency_of_current hissued hl₀

/-! ## What it amounts to -/

/-- Listings and bindings belong together. -/
structure Consistent (c : Config) (s : Loader) : Prop where
  /-- What is shown as loaded is bound, with the modules of that very
  dependency. -/
  loaded : ∀ name l, s.registry.listings.get? name = some l → l.status = .loaded →
    ∃ b, s.registry.bundle? name = some b ∧ l.dependency.name = name ∧
      b.BroughtBy c l.dependency
  /-- What is still bound while a name is loading again is the work of an
  earlier load of that name. -/
  loading : ∀ name l b, s.registry.listings.get? name = some l → l.status = .loading →
    s.registry.bundle? name = some b →
    s.begun[l.generation]? = some l.dependency ∧
    ∃ i d, i < l.generation ∧ s.begun[i]? = some d ∧ d.name = name ∧ b.BroughtBy c d
  /-- The work of a load is bound when it reports, unless the load was overtaken
  or the bundle does not run. -/
  reported : ∀ flight l b, s.flights[flight]? = some (.fetched l (.ok b)) →
    s.registry.current? l.ticket ≠ none →
    Load.tried c.limits l.dependency.name b = .ok b →
    (s.step c (.report flight)).registry.bundle? l.dependency.name = some b ∧
    ∃ l', (s.step c (.report flight)).registry.listings.get? l.dependency.name = some l' ∧
      l'.dependency = l.dependency ∧ l'.status = .loaded

/-- Whatever the network says, and however loads, removals and additions
follow each other, no bundle is bound under a dependency it was not loaded
for. -/
theorem bindings_consistent (c : Config) (actions : List Action) :
    (run c actions).Consistent c := by
  have h := run_sound c actions
  refine
    { loaded := ?_, loading := ?_
      reported := fun flight l b hf hcur htried => h.report_binds hf hcur htried }
  · intro name l hl hloaded
    obtain ⟨b, hbound⟩ := h.wellFormed.loaded_bound hl hloaded
    obtain ⟨i, d, hi, -, hbrought, hcurrent, -⟩ := h.traced hl hbound
    rw [hcurrent hloaded, h.wellFormed.begun_at hl] at hi
    cases hi
    exact ⟨b, hbound, h.wellFormed.named hl, hbrought⟩
  · intro name l b hl hloading hbound
    obtain ⟨i, d, hi, hname, hbrought, -, hearlier⟩ := h.traced hl hbound
    rw [h.wellFormed.named hl] at hname
    exact ⟨h.wellFormed.begun_at hl, i, d, hearlier hloading, hi, hname, hbrought⟩

end Loader

end Playpen.Dependency
