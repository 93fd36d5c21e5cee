import Playpen.Proofs.Runs.Traffic

/-!
# What overlapping runs publish

Two facts carry what callers may rely on.  A stage remembers what its run has
frozen and read (`Traced`), so that what happens to the registry and to the
source afterwards is of no account.  And when a run publishes what it has come
to, no other run is under way (`Exclusive.still_of_executed`), so that nothing
but a clear can replace the result before another call is accepted.
-/

namespace Playpen

open Dependency (Bundle)

namespace Playground

namespace Traffic

variable {s s' : Traffic} {e : Event} {i j : Nat} {stage : Stage} {c : Config}

/-! ## What a run freezes and reads -/

/-- At some moment the call of a number froze the dependencies bound then. -/
def Froze (c : Config) (events : List Event) (i : Nat) (bound : List (String × Bundle)) : Prop :=
  ∃ earlier, earlier ++ [.advance i] <+: events ∧
    (run c earlier).calls[i]? = some (.running .cleared) ∧
    bound = (run c earlier).playground.registry.snapshot

/-- After it had frozen `bound`, it read the source as it was then. -/
def Read (c : Config) (events : List Event) (i : Nat) (bound : List (String × Bundle))
    (source : String) : Prop :=
  ∃ earlier, earlier ++ [.advance i] <+: events ∧ Froze c earlier i bound ∧
    (run c earlier).calls[i]? = some (.running (.frozen bound)) ∧
    source = (run c earlier).playground.source

/-- What a call that has come to a stage has in hand comes from its own
freezing and reading. -/
def Traced (c : Config) (events : List Event) (i : Nat) : Stage → Prop
  | .accepted | .cleared => True
  | .frozen bound => Froze c events i bound
  | .ready bound source => Read c events i bound source
  | .executed r | .published r | .finished r =>
    ∃ bound source, Read c events i bound source ∧ r = execute source bound c

theorem Froze.mono {events events' : List Event} {bound : List (String × Bundle)}
    (h : Froze c events i bound) (hextends : events <+: events') : Froze c events' i bound := by
  obtain ⟨earlier, hearlier, hrest⟩ := h
  exact ⟨earlier, hearlier.trans hextends, hrest⟩

theorem Read.mono {events events' : List Event} {bound : List (String × Bundle)}
    {source : String} (h : Read c events i bound source) (hextends : events <+: events') :
    Read c events' i bound source := by
  obtain ⟨earlier, hearlier, hrest⟩ := h
  exact ⟨earlier, hearlier.trans hextends, hrest⟩

theorem Traced.mono {events events' : List Event} (h : Traced c events i stage)
    (hextends : events <+: events') : Traced c events' i stage := by
  cases stage with
  | accepted | cleared => trivial
  | frozen bound => exact Froze.mono h hextends
  | ready bound source => exact Read.mono h hextends
  | executed r | published r | finished r =>
    obtain ⟨bound, source, hread, hr⟩ := h
    exact ⟨bound, source, hread.mono hextends, hr⟩

theorem run_config (c : Config) (events : List Event) : (run c events).playground.config = c := by
  induction events using List.reverseRecOn with
  | nil => rfl
  | append_singleton events e ih =>
    rw [run_snoc, config_eq (steps _ e), ih]

/-- The step of a call extends what is traced. -/
theorem Traced.advance {events : List Event} (h : Traced c events i stage)
    (hi : (run c events).calls[i]? = some (.running stage)) :
    Traced c (events ++ [.advance i]) i ((run c events).playground.step stage).1 := by
  have hextends : events <+: events ++ [.advance i] := List.prefix_append _ _
  cases stage with
  | accepted => trivial
  | cleared => exact ⟨events, List.prefix_rfl, hi, rfl⟩
  | frozen bound => exact ⟨events, List.prefix_rfl, h, hi, rfl⟩
  | ready bound source =>
    refine ⟨bound, source, Read.mono h hextends, ?_⟩
    exact congrArg (execute source bound) (run_config c events)
  | executed r | published r | finished r =>
    obtain ⟨bound, source, hread, hr⟩ := h
    exact ⟨bound, source, hread.mono hextends, hr⟩

theorem run_traced (c : Config) (events : List Event) :
    ∀ {i stage}, (run c events).calls[i]? = some (.running stage) → Traced c events i stage := by
  induction events using List.reverseRecOn with
  | nil =>
    intro i stage hi
    cases hi
  | append_singleton events e ih =>
    intro i stage hi
    rw [run_snoc] at hi
    rcases stage_before (steps _ e) hi with hold | ⟨-, -, rfl, -⟩ | ⟨before, rfl, hbefore, rfl⟩
    · exact (ih hold).mono (List.prefix_append _ _)
    · trivial
    · exact (ih hbefore).advance hbefore

/-! ## What is published -/

theorem step_publishes (p : Playground) (stage : Stage) :
    ((p.step stage).2.publications = p.publications ∧ (p.step stage).2.latest = p.latest) ∨
      (stage = .accepted ∧ (p.step stage).2 = p.publish .empty) ∨
      ∃ r, stage = .executed r ∧ (p.step stage).2 = p.publish r.outcome.log := by
  cases stage with
  | accepted => exact Or.inr (Or.inl ⟨rfl, rfl⟩)
  | executed r => exact Or.inr (Or.inr ⟨r, rfl, rfl⟩)
  | cleared | frozen | ready | published | finished => exact Or.inl ⟨rfl, rfl⟩

/-- An event publishes nothing, or an empty result, or what a run has come
to. -/
theorem publishes (hs : s.Steps e s') :
    (s'.playground.publications = s.playground.publications ∧
        s'.playground.latest = s.playground.latest) ∨
      s'.playground = s.playground.publish .empty ∨
      ∃ i r, e = .advance i ∧ s.calls[i]? = some (.running (.executed r)) ∧
        s'.playground = s.playground.publish r.outcome.log := by
  cases hs with
  | accepted | refused | absent => exact Or.inl ⟨rfl, rfl⟩
  | cleared => exact Or.inr (Or.inl rfl)
  | edited _ _ _ hlatest hpublications => exact Or.inl ⟨hpublications, hlatest⟩
  | @advanced i stage hi =>
    rcases step_publishes s.playground stage with hnothing | ⟨-, hempty⟩ | ⟨r, rfl, hresult⟩
    · exact Or.inl hnothing
    · exact Or.inr (Or.inl hempty)
    · exact Or.inr (Or.inr ⟨i, r, rfl, hi, hresult⟩)

/-- An event that counts as a publication has published an empty result, or what
one run has come to. -/
theorem latest_of_published (hs : s.Steps e s')
    (hpublishes : s'.playground.publications ≠ s.playground.publications) :
    s'.playground.latest = .empty ∨
      ∃! i, ∃ r, e = .advance i ∧ s.calls[i]? = some (.running (.executed r)) ∧
        s'.playground.latest = r.outcome.log := by
  rcases publishes hs with ⟨hnothing, -⟩ | hempty | ⟨i, r, he, hi, hresult⟩
  · exact absurd hnothing hpublishes
  · exact Or.inl (congrArg Playground.latest hempty)
  · refine Or.inr ⟨i, ⟨r, he, hi, congrArg Playground.latest hresult⟩, ?_⟩
    rintro j ⟨r', he', -⟩
    rw [he] at he'
    cases he'
    rfl

theorem latest_of_unpublished (hs : s.Steps e s')
    (hsame : s'.playground.publications = s.playground.publications) :
    s'.playground.latest = s.playground.latest := by
  rcases publishes hs with ⟨-, hlatest⟩ | hempty | ⟨i, r, -, -, hresult⟩
  · exact hlatest
  · rw [hempty] at hsame
    exact absurd hsame (Nat.succ_ne_self _)
  · rw [hresult] at hsame
    exact absurd hsame (Nat.succ_ne_self _)

/-- A run that has published what it came to does not come to it again: its next
stage is behind that, and steps never lead back. -/
theorem stage_ne_executed {r : Execution.Result}
    (hi : s.calls[i]? = some (.running (.executed r))) (later : List Event)
    (r' : Execution.Result) :
    (later.foldl step (s.step (.advance i))).calls[i]? ≠ some (.running (.executed r')) := by
  intro hr'
  have hnext : (s.step (.advance i)).calls[i]? = some (.running (.published r)) := by
    rcases stage_of_steps (steps s (.advance i)) hi with ⟨hne, -⟩ | ⟨-, hstep⟩
    · exact absurd rfl hne
    · exact hstep
  obtain ⟨stage, hstage, hremaining⟩ := stage_foldl later hnext
  rw [hstage] at hr'
  cases hr'
  have htwo : 2 = 1 - later.countP (Event.advances i) := hremaining
  omega

/-! ## While nobody else publishes -/

/-- The event clears the output, or is a call that is accepted. -/
def Interrupts (s : Traffic) : Event → Prop
  | .call => ∃ result, s.playground.accept = .ok result
  | .clear => True
  | _ => False

/-- None of these events, one after the other from now on, clears the output
or is a call that is accepted. -/
def Quiet (s : Traffic) : List Event → Prop
  | [] => True
  | e :: rest => ¬ s.Interrupts e ∧ (s.step e).Quiet rest

theorem interrupts_of_free (h : s.playground.running = false) : s.Interrupts .call := by
  simp [Interrupts, accept, h]

theorem quiet_append (events later : List Event) :
    ∀ {s : Traffic}, s.Quiet (events ++ later) ↔
      s.Quiet events ∧ (events.foldl step s).Quiet later := by
  induction events with
  | nil =>
    intro s
    simp [Quiet]
  | cons e rest ih =>
    intro s
    rw [List.cons_append, Quiet, Quiet, ih, List.foldl_cons, and_assoc]

/-- All runs have published what they have come to. -/
def Still (s : Traffic) : Prop :=
  ∀ {i : Nat} {stage : Stage}, s.calls[i]? = some (.running stage) → stage.remaining ≤ 1

theorem Still.step (h : s.Still) (hs : s.Steps e s') (hquiet : ¬ s.Interrupts e) :
    s'.Still ∧ s'.playground.latest = s.playground.latest := by
  constructor
  · intro i stage hi
    rcases stage_before hs hi with hold | ⟨rfl, -, -, hfree⟩ | ⟨before, -, hbefore, rfl⟩
    · exact h hold
    · exact absurd (interrupts_of_free hfree) hquiet
    · have hbefore := h hbefore
      rw [remaining_step]
      omega
  · cases hs with
    | accepted | refused | absent => rfl
    | cleared => exact absurd trivial hquiet
    | edited _ _ _ hlatest => exact hlatest
    | @advanced i stage hi =>
      have hlate := h hi
      rcases step_publishes s.playground stage with ⟨-, hlatest⟩ | ⟨rfl, -⟩ | ⟨r, rfl, -⟩
      · exact hlatest
      · exact absurd hlate (by decide)
      · exact absurd hlate (by decide : ¬ 2 ≤ 1)

theorem Still.latest_eq (later : List Event) :
    ∀ {s : Traffic}, s.Still → s.Quiet later →
      (later.foldl Traffic.step s).playground.latest = s.playground.latest := by
  induction later with
  | nil =>
    intro s _ _
    rfl
  | cons e rest ih =>
    intro s h hquiet
    obtain ⟨hstill, hlatest⟩ := h.step (steps s e) hquiet.1
    rw [List.foldl_cons, ih hstill hquiet.2, hlatest]

theorem inFlight_of_remaining (hi : s.calls[i]? = some (.running stage))
    (hopen : stage.remaining ≠ 0) : s.InFlight i := by
  refine ⟨stage, hi, ?_⟩
  rintro r rfl
  exact hopen rfl

/-- When a run publishes what it has come to, no other is in flight. -/
theorem Exclusive.still_of_executed (h : s.Exclusive) {r : Execution.Result}
    (hi : s.calls[i]? = some (.running (.executed r))) :
    (s.step (.advance i)).Still ∧ (s.step (.advance i)).playground.latest = r.outcome.log := by
  have hflight : s.InFlight i := inFlight_of_remaining hi (by decide : 2 ≠ 0)
  have hstep : s.step (.advance i) =
      ⟨s.playground.publish r.outcome.log, s.calls.set i (.running (.published r))⟩ := by
    simp only [Traffic.step, hi]
    rfl
  refine ⟨?_, by rw [hstep]; rfl⟩
  intro j stage hj
  by_contra hlate
  have hother := inFlight_of_remaining hj (by omega)
  rcases hother.before (steps s _) with hold | ⟨hcall, -⟩
  · have hij : j = i := h.unique hold hflight
    subst hij
    rw [hstep] at hj
    rw [List.getElem?_set_self (List.getElem?_eq_some_iff.mp hi).1] at hj
    cases hj
    exact hlate (by decide : 1 ≤ 1)
  · cases hcall

/-! ## The run that was accepted last -/

/-- The call of a number has published what its run came to, `r`, before the
last events; and unless one of these is a clear, they are quiet. -/
def Concluded (c : Config) (events : List Event) (i : Nat) (r : Execution.Result) : Prop :=
  ∃ before after, events = before ++ .advance i :: after ∧
    (run c before).calls[i]? = some (.running (.executed r)) ∧
    (.clear ∉ after → (run c (before ++ [.advance i])).Quiet after)

theorem Concluded.snoc {events : List Event} {r : Execution.Result}
    (h : Concluded c events i r)
    (hcall : e = .call → (run c events).playground.running = true) :
    Concluded c (events ++ [e]) i r := by
  obtain ⟨before, after, rfl, hi, hquiet⟩ := h
  refine ⟨before, after ++ [e], by simp, hi, ?_⟩
  intro hclear
  rw [List.mem_append, not_or, List.mem_singleton] at hclear
  rw [quiet_append]
  refine ⟨hquiet hclear.1, ?_, trivial⟩
  rw [← run_append, List.append_assoc, List.singleton_append]
  cases e with
  | call =>
    rintro ⟨result, haccept⟩
    rw [accept, if_pos (hcall rfl)] at haccept
    cases haccept
  | clear => exact absurd rfl hclear.2
  | advance | setSource | begin | commit | fail | remove => exact id

/-- The call of this number has come to a stage, and none after it has been
accepted. -/
structure LastAccepted (s : Traffic) (i : Nat) (stage : Stage) : Prop where
  stage_eq : s.calls[i]? = some (.running stage)
  last : ∀ {j : Nat} {other : Stage}, s.calls[j]? = some (.running other) → j ≤ i

theorem LastAccepted.accepted (h : s.playground.running = false) :
    (s.step .call).LastAccepted s.calls.length .accepted := by
  rw [step_call_of_free h]
  refine ⟨List.getElem?_concat_length, ?_⟩
  intro j other hj
  have hlt := (List.getElem?_eq_some_iff.mp hj).1
  rw [List.length_append, List.length_singleton] at hlt
  omega

/-- Unless a call is accepted, all that run have been running before. -/
theorem running_before (hs : s.Steps e s') (hcall : e = .call → s.playground.running = true)
    (hj : s'.calls[j]? = some (.running stage)) :
    ∃ before, s.calls[j]? = some (.running before) := by
  rcases stage_before hs hj with hold | ⟨he, -, -, hfree⟩ | ⟨before, -, hold, -⟩
  · exact ⟨stage, hold⟩
  · rw [hcall he] at hfree
    cases hfree
  · exact ⟨before, hold⟩

theorem LastAccepted.steps (h : s.LastAccepted i stage) (hs : s.Steps e s')
    (hcall : e = .call → s.playground.running = true) :
    s'.LastAccepted i stage ∨
      (e = .advance i ∧ s'.LastAccepted i (s.playground.step stage).1) := by
  have hlast : ∀ {j : Nat} {other : Stage}, s'.calls[j]? = some (.running other) → j ≤ i := by
    intro j other hj
    obtain ⟨before, hold⟩ := running_before hs hcall hj
    exact h.last hold
  rcases stage_of_steps hs h.stage_eq with ⟨-, hi⟩ | ⟨he, hi⟩
  · exact Or.inl ⟨hi, hlast⟩
  · exact Or.inr ⟨he, hi, hlast⟩

theorem step_result {p : Playground} {r : Execution.Result}
    (hlate : (p.step stage).1.remaining ≤ 1) (hr : (p.step stage).1.result? = some r) :
    stage = .executed r ∨ (stage.remaining ≤ 1 ∧ stage.result? = some r) := by
  cases stage with
  | executed r' =>
    cases hr
    exact Or.inl rfl
  | published r' | finished r' => exact Or.inr ⟨by simp [Stage.remaining], hr⟩
  | accepted | cleared | frozen => cases hr
  | ready => exact absurd hlate (by simp [Playground.step, Stage.remaining])

/-- Once the call accepted last has published, nothing but clears can have come
between. -/
theorem run_lastAccepted (c : Config) (events : List Event) :
    (∀ (i : Nat) (stage : Stage), (run c events).calls[i]? ≠ some (.running stage)) ∨
      ∃ i stage, (run c events).LastAccepted i stage ∧
        ∀ r, stage.remaining ≤ 1 → stage.result? = some r → Concluded c events i r := by
  induction events using List.reverseRecOn with
  | nil =>
    left
    intro i stage hi
    cases hi
  | append_singleton events e ih =>
    rw [run_snoc]
    have hs := Traffic.steps (run c events) e
    by_cases haccepted : e = Event.call ∧ (run c events).playground.running = false
    · -- a call that has just been accepted has published nothing yet
      obtain ⟨rfl, hfree⟩ := haccepted
      refine Or.inr ⟨_, _, LastAccepted.accepted hfree, ?_⟩
      intro r hlate
      exact absurd hlate (by decide : ¬ 6 ≤ 1)
    · have hcall : e = .call → (run c events).playground.running = true := by
        rintro rfl
        rw [← Bool.not_eq_false]
        exact fun hfree => haccepted ⟨rfl, hfree⟩
      rcases ih with hnone | ⟨i, stage, hlast, hconcluded⟩
      · left
        intro j stage hj
        obtain ⟨before, hold⟩ := running_before hs hcall hj
        exact hnone j before hold
      · right
        rcases hlast.steps hs hcall with hsame | ⟨rfl, hnext⟩
        · exact ⟨i, stage, hsame, fun r hlate hr => (hconcluded r hlate hr).snoc hcall⟩
        · refine ⟨i, _, hnext, ?_⟩
          intro r hlate hr
          rcases step_result hlate hr with rfl | ⟨hlate, hr⟩
          · exact ⟨events, [], rfl, hlast.stage_eq, fun _ => trivial⟩
          · exact (hconcluded r hlate hr).snoc hcall

/-! ## What callers may rely on -/

theorem run_refused (c : Config) (events : List Event) :
    ∀ {i : Nat} {error : Error}, (run c events).calls[i]? = some (.refused error) →
      error = .runInProgress := by
  induction events using List.reverseRecOn with
  | nil =>
    intro i error hi
    cases hi
  | append_singleton events e ih =>
    intro i error hi
    have hs := steps (run c events) e
    rw [run_snoc] at hi
    generalize (run c events).step e = s' at hs hi
    cases hs with
    | absent | cleared | edited => exact ih hi
    | accepted =>
      rcases mem_snoc_at hi with hold | ⟨-, hnew⟩
      · exact ih hold
      · cases hnew
    | refused =>
      rcases mem_snoc_at hi with hold | ⟨-, hnew⟩
      · exact ih hold
      · cases hnew
        rfl
    | @advanced j stage hj =>
      by_cases hij : j = i
      · subst hij
        have hset := hi
        rw [List.getElem?_set_self (List.getElem?_eq_some_iff.mp hj).1] at hset
        cases hset
      · exact ih ((List.getElem?_set_ne hij).symm.trans hi)

/-- From a run's last publication on, quiet events leave its result the
latest. -/
theorem latest_of_concluded {before after : List Event} {r : Execution.Result}
    (hi : (run c before).calls[i]? = some (.running (.executed r)))
    (hquiet : (run c (before ++ [.advance i])).Quiet after) :
    (run c (before ++ .advance i :: after)).playground.latest = r.outcome.log := by
  obtain ⟨hstill, hlatest⟩ := (run_exclusive c before).still_of_executed hi
  rw [run_snoc] at hquiet
  rw [List.append_cons, run_append, run_snoc, hstill.latest_eq after hquiet, hlatest]

/-- Whoever finds the flag free, after a call has been accepted, finds that the
call accepted last has published, and reads its result unless there was a clear
since. -/
theorem latest_of_free {events : List Event}
    (hfree : (run c events).playground.running = false)
    (hsome : ∃ (i : Nat) (stage : Stage), (run c events).calls[i]? = some (.running stage)) :
    ∃ i r before after, (run c events).LastAccepted i (.finished r) ∧
      events = before ++ .advance i :: after ∧
      (run c before).calls[i]? = some (.running (.executed r)) ∧
      (.clear ∉ after → ∀ later, (run c events).Quiet later →
        (run c (events ++ later)).playground.latest = r.outcome.log) := by
  obtain ⟨j, other, hj⟩ := hsome
  rcases run_lastAccepted c events with hnone | ⟨i, stage, hlast, hconcluded⟩
  · exact absurd hj (hnone j other)
  · have hended : stage.remaining = 0 := by
      by_contra hopen
      have hflight := inFlight_of_remaining hlast.stage_eq hopen
      rw [(run_exclusive c events).running_iff.mpr ⟨i, hflight⟩] at hfree
      cases hfree
    obtain ⟨r, rfl⟩ := eq_finished_of_remaining hended
    obtain ⟨before, after, hevents, hi, hafter⟩ := hconcluded r (Nat.zero_le 1) rfl
    refine ⟨i, r, before, after, hlast, hevents, hi, ?_⟩
    intro hclear later hlater
    have hquiet : (run c (before ++ [.advance i])).Quiet (after ++ later) := by
      rw [quiet_append, ← run_append, ← List.append_cons, ← hevents]
      exact ⟨hafter hclear, hlater⟩
    rw [hevents, List.append_assoc, List.cons_append]
    exact latest_of_concluded hi hquiet

theorem state_eq_idle_iff {p : Playground} : p.state = .idle ↔ p.running = false := by
  unfold state
  cases p.running <;> simp

/-- What callers may rely on after any events, whatever comes next. -/
structure Orderly (c : Config) (events : List Event) (s : Traffic) : Prop where
  /-- The flag is taken exactly while one call is between taking it and giving
  it back, and no two calls ever are. -/
  running_iff : s.playground.running = true ↔ ∃! i, s.InFlight i
  exclusive : ∀ i j, s.InFlight i → s.InFlight j → i = j
  /-- A call that finds the flag free takes it; one that finds it taken is
  turned away with the error for it.  Neither the latter nor any attempt to go
  on with it has an effect. -/
  accepted : s.playground.running = false →
    s.step .call = ⟨{ s.playground with running := true }, s.calls ++ [.running .accepted]⟩
  turned_away : s.playground.running = true →
    s.step .call = { s with calls := s.calls ++ [.refused .runInProgress] }
  refused : ∀ i error, s.calls[i]? = some (.refused error) →
    error = .runInProgress ∧ s.step (.advance i) = s
  /-- What is published next is empty, or all that one accepted run has come
  to; the result changes in no other way. -/
  published : ∀ e, (s.step e).playground.publications ≠ s.playground.publications →
    (s.step e).playground.latest = .empty ∨
    ∃! i, ∃ r, e = .advance i ∧ s.calls[i]? = some (.running (.executed r)) ∧
      (s.step e).playground.latest = r.outcome.log
  unpublished : ∀ e, (s.step e).playground.publications = s.playground.publications →
    (s.step e).playground.latest = s.playground.latest
  /-- A run publishes what it has come to once. -/
  published_once : ∀ i r, s.calls[i]? = some (.running (.executed r)) → ∀ later r',
    (run c (events ++ .advance i :: later)).calls[i]? ≠ some (.running (.executed r'))
  /-- What a run publishes and returns is the result of executing the source
  that it read with the dependencies that it froze, whatever has become of
  either since. -/
  result_eq : ∀ i stage r, s.calls[i]? = some (.running stage) → stage.result? = some r →
    ∃ bound source, Read c events i bound source ∧ r = execute source bound c
  /-- A published result stays the latest until a clear, or until a call is
  accepted. -/
  lasting : ∀ i r, s.calls[i]? = some (.running (.executed r)) → ∀ later,
    (s.step (.advance i)).Quiet later →
    (run c (events ++ .advance i :: later)).playground.latest = r.outcome.log
  /-- Whoever sees the playground idle after a run, and no clear since that run
  has published, reads the result of the run accepted last; also later, up to
  the next clear or accepted call. -/
  idle : s.playground.state = .idle →
    (∃ (i : Nat) (stage : Stage), s.calls[i]? = some (.running stage)) →
    ∃ i r before after, s.LastAccepted i (.finished r) ∧ events = before ++ .advance i :: after ∧
      (run c before).calls[i]? = some (.running (.executed r)) ∧
      (.clear ∉ after → ∀ later, s.Quiet later →
        (run c (events ++ later)).playground.latest = r.outcome.log)
  /-- An accepted call ends after its own steps, whatever happens between
  them, and with nothing between them it is `Playground.run`. -/
  ending : ∀ i stage later, s.calls[i]? = some (.running stage) →
    stage.remaining ≤ later.countP (Event.advances i) →
    ∃ r, (run c (events ++ later)).calls[i]? = some (.running (.finished r))
  undisturbed : ∀ r p, s.playground.run = .ok (r, p) →
    run c (events ++ .call :: List.replicate 6 (.advance s.calls.length)) =
      ⟨p, s.calls ++ [.running (.finished r)]⟩

/-- However calls, edits, clears and dependencies interleave, runs exclude each
other and every result is that of one run. -/
theorem run_orderly (c : Config) (events : List Event) : Orderly c events (run c events) := by
  have hexclusive := run_exclusive c events
  refine
    { running_iff := ?_, exclusive := fun _ _ => hexclusive.unique
      accepted := step_call_of_free, turned_away := step_call_of_taken, refused := ?_
      published := fun e => latest_of_published (steps _ e)
      unpublished := fun e => latest_of_unpublished (steps _ e)
      published_once := ?_, result_eq := ?_, lasting := ?_
      idle := fun hidle => latest_of_free (state_eq_idle_iff.mp hidle)
      ending := ?_, undisturbed := ?_ }
  · rw [hexclusive.running_iff]
    constructor
    · rintro ⟨i, hi⟩
      exact ⟨i, hi, fun j hj => hexclusive.unique hj hi⟩
    · rintro ⟨i, hi, -⟩
      exact ⟨i, hi⟩
  · intro i error hi
    refine ⟨run_refused c events hi, ?_⟩
    simp only [step, hi]
  · intro i r hi later r'
    rw [run_append, List.foldl_cons]
    exact stage_ne_executed hi later r'
  · intro i stage r hi hr
    have htraced := run_traced c events hi
    cases stage with
    | executed r' | published r' | finished r' =>
      cases hr
      exact htraced
    | accepted | cleared | frozen | ready => cases hr
  · intro i r hi later hquiet
    rw [← run_snoc] at hquiet
    exact latest_of_concluded hi hquiet
  · intro i stage later hi henough
    obtain ⟨stage', hstage', hremaining⟩ := stage_foldl later hi
    have hended : stage'.remaining = 0 := hremaining.trans (Nat.sub_eq_zero_of_le henough)
    obtain ⟨r, rfl⟩ := eq_finished_of_remaining hended
    refine ⟨r, ?_⟩
    rw [run_append]
    exact hstage'
  · intro r p hrun
    rw [run_append]
    exact foldl_undisturbed hrun

end Traffic

end Playground

end Playpen
