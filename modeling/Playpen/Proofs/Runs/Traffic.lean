import Playpen.Playground
import Mathlib.Data.List.Basic
import Mathlib.Data.List.Induction
import Mathlib.Logic.ExistsUnique

/-!
# Calls that overlap

Any number of callers ask one playground to run, while its source is edited,
its output is cleared and its dependencies come and go.  A call takes its steps
one at a time and anything may happen between two of them, so an interleaving
is a list of events.

`Steps` says once what an event can do to the flag, to the published result and
to the calls; everything else about interleavings is read off it.  Here that
is mutual exclusion (`Exclusive`), and that a call which is given its steps
comes to its end (`stage_foldl`).
-/

namespace Playpen

open Dependency (Bundle Ticket)

namespace Playground

/-! ## Events -/

/-- A call of `run`: it was turned away, or it has come to a stage. -/
inductive Call where
  | refused (e : Error)
  | running (stage : Stage)

/-- A playground, and all calls of `run` so far in the order in which they
came; a call is known by its place. -/
structure Traffic where
  playground : Playground
  calls : List Call

/-- What can happen next. -/
inductive Event where
  /-- Somebody calls `run`: the flag is taken, or the call is turned away. -/
  | call
  /-- The call of a number takes its next step. -/
  | advance (i : Nat)
  | setSource (source : String)
  | clear
  | begin (d : Dependency)
  | commit (t : Ticket) (b : Bundle)
  | fail (t : Ticket) (message : String)
  | remove (name : String)

/-- What a call that has come to a stage will return. -/
def Stage.result? : Stage → Option Execution.Result
  | .executed r | .published r | .finished r => some r
  | .accepted | .cleared | .frozen _ | .ready _ _ => none

/-- The event changes the source or the dependencies. -/
def Event.Edits : Event → Prop
  | call | advance _ | clear => False
  | setSource _ | begin _ | commit _ _ | fail _ _ | remove _ => True

/-- The event is a step of the call of this number. -/
def Event.advances (i : Nat) : Event → Bool
  | advance j => j == i
  | call | clear | setSource _ | begin _ | commit _ _ | fail _ _ | remove _ => false

namespace Traffic

def step (s : Traffic) : Event → Traffic
  | .call =>
    match s.playground.accept with
    | .ok (stage, p) => ⟨p, s.calls ++ [.running stage]⟩
    | .error e => { s with calls := s.calls ++ [.refused e] }
  | .advance i =>
    match s.calls[i]? with
    | some (.running stage) =>
      let next := s.playground.step stage
      ⟨next.2, s.calls.set i (.running next.1)⟩
    | _ => s
  | .setSource source => { s with playground := s.playground.setSource source }
  | .clear => { s with playground := s.playground.clearOutput }
  | .begin d =>
    match s.playground.registry.begin d with
    | .ok (_, r) => { s with playground := { s.playground with registry := r } }
    | .error _ => s
  | .commit t b =>
    { s with playground := { s.playground with registry := (s.playground.registry.commit t b).2 } }
  | .fail t message =>
    { s with
      playground := { s.playground with registry := (s.playground.registry.fail t message).2 } }
  | .remove name => { s with playground := (s.playground.remove name).2 }

/-- Plays events one after the other, from a new playground. -/
def run (c : Config) (events : List Event) : Traffic := events.foldl step ⟨.new c, []⟩

theorem run_append (c : Config) (events later : List Event) :
    run c (events ++ later) = later.foldl step (run c events) := List.foldl_append

theorem run_snoc (c : Config) (events : List Event) (e : Event) :
    run c (events ++ [e]) = (run c events).step e := run_append c events [e]

/-! ## What one event does -/

/-- All that an event can do to the flag, the result and the calls. -/
inductive Steps (s : Traffic) : Event → Traffic → Prop where
  | accepted (h : s.playground.running = false) :
    Steps s .call ⟨{ s.playground with running := true }, s.calls ++ [.running .accepted]⟩
  | refused (h : s.playground.running = true) :
    Steps s .call { s with calls := s.calls ++ [.refused .runInProgress] }
  | advanced {i : Nat} {stage : Stage} (h : s.calls[i]? = some (.running stage)) :
    Steps s (.advance i)
      ⟨(s.playground.step stage).2, s.calls.set i (.running (s.playground.step stage).1)⟩
  | absent {i : Nat} (h : ∀ stage, s.calls[i]? ≠ some (.running stage)) : Steps s (.advance i) s
  | cleared : Steps s .clear { s with playground := s.playground.publish .empty }
  | edited {e : Event} {p : Playground} (h : e.Edits)
    (hconfig : p.config = s.playground.config) (hrunning : p.running = s.playground.running)
    (hlatest : p.latest = s.playground.latest)
    (hpublications : p.publications = s.playground.publications) : Steps s e ⟨p, s.calls⟩

theorem step_call_of_free {s : Traffic} (h : s.playground.running = false) :
    s.step .call = ⟨{ s.playground with running := true }, s.calls ++ [.running .accepted]⟩ := by
  simp only [step, accept, h]
  rfl

theorem step_call_of_taken {s : Traffic} (h : s.playground.running = true) :
    s.step .call = { s with calls := s.calls ++ [.refused .runInProgress] } := by
  simp only [step, accept, h]
  rfl

theorem steps (s : Traffic) (e : Event) : s.Steps e (s.step e) := by
  cases e with
  | call =>
    cases h : s.playground.running with
    | false =>
      rw [step_call_of_free h]
      exact .accepted h
    | true =>
      rw [step_call_of_taken h]
      exact .refused h
  | advance i =>
    simp only [step]
    split
    · rename_i stage hstage
      exact .advanced hstage
    · rename_i hother
      exact .absent fun stage hstage => hother stage hstage
  | clear => exact .cleared
  | begin d =>
    simp only [step]
    split <;> exact .edited trivial rfl rfl rfl rfl
  | setSource source => exact .edited trivial rfl rfl rfl rfl
  | commit t b => exact .edited trivial rfl rfl rfl rfl
  | fail t message => exact .edited trivial rfl rfl rfl rfl
  | remove name => exact .edited trivial rfl rfl rfl rfl

variable {s s' : Traffic} {e : Event} {i j : Nat} {stage : Stage} {c : Config}

theorem config_eq (hs : s.Steps e s') : s'.playground.config = s.playground.config := by
  cases hs with
  | advanced h =>
    rename_i stage
    cases stage <;> rfl
  | edited _ hconfig => exact hconfig
  | accepted | refused | absent | cleared => rfl

/-- A call keeps its stage until it takes a step itself. -/
theorem stage_of_steps (hs : s.Steps e s') (hi : s.calls[i]? = some (.running stage)) :
    (e ≠ .advance i ∧ s'.calls[i]? = some (.running stage)) ∨
      e = .advance i ∧ s'.calls[i]? = some (.running (s.playground.step stage).1) := by
  have hlt : i < s.calls.length := (List.getElem?_eq_some_iff.mp hi).1
  cases hs with
  | accepted | refused =>
    refine Or.inl ⟨Event.noConfusion, ?_⟩
    rw [← hi]
    exact List.getElem?_append_left hlt
  | cleared => exact Or.inl ⟨Event.noConfusion, hi⟩
  | edited hedit =>
    refine Or.inl ⟨?_, hi⟩
    rintro rfl
    exact hedit
  | absent hnone =>
    refine Or.inl ⟨?_, hi⟩
    rintro ⟨⟩
    exact hnone stage hi
  | @advanced j stage' hj =>
    by_cases hij : j = i
    · subst hij
      rw [hi] at hj
      cases hj
      exact Or.inr ⟨rfl, List.getElem?_set_self hlt⟩
    · refine Or.inl ⟨?_, ?_⟩
      · rintro ⟨⟩
        exact hij rfl
      · rw [← hi]
        exact List.getElem?_set_ne hij

theorem mem_snoc_at {calls : List Call} {new call : Call}
    (h : (calls ++ [new])[i]? = some call) :
    calls[i]? = some call ∨ (i = calls.length ∧ call = new) := by
  rcases Nat.lt_trichotomy i calls.length with hlt | rfl | hgt
  · rw [List.getElem?_append_left hlt] at h
    exact Or.inl h
  · rw [List.getElem?_concat_length] at h
    exact Or.inr ⟨rfl, (Option.some.inj h).symm⟩
  · rw [List.getElem?_eq_none (by simp; omega)] at h
    cases h

/-- A call that is running now was running before, or has just been accepted. -/
theorem stage_before (hs : s.Steps e s') (hi : s'.calls[i]? = some (.running stage)) :
    s.calls[i]? = some (.running stage) ∨
      (e = .call ∧ i = s.calls.length ∧ stage = .accepted ∧ s.playground.running = false) ∨
      ∃ before, e = .advance i ∧ s.calls[i]? = some (.running before) ∧
        stage = (s.playground.step before).1 := by
  cases hs with
  | absent | cleared | edited => exact Or.inl hi
  | accepted h =>
    rcases mem_snoc_at hi with hold | ⟨hlast, hnew⟩
    · exact Or.inl hold
    · cases hnew
      exact Or.inr (Or.inl ⟨rfl, hlast, rfl, h⟩)
  | refused h =>
    rcases mem_snoc_at hi with hold | ⟨-, hnew⟩
    · exact Or.inl hold
    · cases hnew
  | @advanced j before hj =>
    by_cases hij : j = i
    · subst hij
      have hlt : j < s.calls.length := (List.getElem?_eq_some_iff.mp hj).1
      have hset := hi
      rw [List.getElem?_set_self hlt] at hset
      cases hset
      exact Or.inr (Or.inr ⟨before, rfl, hj, rfl⟩)
    · left
      rw [← hi]
      exact (List.getElem?_set_ne hij).symm

/-! ## The flag -/

/-- The call of a number has taken the flag and not given it back yet. -/
def InFlight (s : Traffic) (i : Nat) : Prop :=
  ∃ stage, s.calls[i]? = some (.running stage) ∧ ∀ r, stage ≠ .finished r

/-- The flag is taken exactly while a call is in flight, and never by two. -/
structure Exclusive (s : Traffic) : Prop where
  running_iff : s.playground.running = true ↔ ∃ i, s.InFlight i
  unique : ∀ {i j}, s.InFlight i → s.InFlight j → i = j

/-- The last step of a call gives the flag back, and no other step touches it. -/
theorem step_flag (p : Playground) (stage : Stage) :
    (∃ r, stage = .published r ∧ (p.step stage).1 = .finished r ∧
        (p.step stage).2.running = false) ∨
      ((p.step stage).2.running = p.running ∧
        ((∃ r, (p.step stage).1 = .finished r) ↔ ∃ r, stage = .finished r)) := by
  cases stage with
  | published r => exact Or.inl ⟨r, rfl, rfl, rfl⟩
  | finished r => exact Or.inr ⟨rfl, Iff.rfl⟩
  | accepted | cleared | frozen | ready | executed =>
    refine Or.inr ⟨rfl, ?_, ?_⟩
    · rintro ⟨r, hr⟩
      cases hr
    · rintro ⟨r, hr⟩
      cases hr

theorem InFlight.before (hs : s.Steps e s') (h : s'.InFlight i) :
    s.InFlight i ∨ (e = .call ∧ i = s.calls.length ∧ s.playground.running = false) := by
  obtain ⟨stage, hi, hopen⟩ := h
  rcases stage_before hs hi with hold | ⟨he, hlast, -, hfree⟩ | ⟨before, -, hbefore, rfl⟩
  · exact Or.inl ⟨stage, hold, hopen⟩
  · exact Or.inr ⟨he, hlast, hfree⟩
  · refine Or.inl ⟨before, hbefore, ?_⟩
    rintro r rfl
    exact hopen r rfl

theorem Exclusive.step (h : s.Exclusive) (hs : s.Steps e s') : s'.Exclusive := by
  have hnobody : s.playground.running = false → ∀ i, ¬ s.InFlight i := by
    intro hfree i hi
    rw [h.running_iff.mpr ⟨i, hi⟩] at hfree
    cases hfree
  have hunique : ∀ {i j}, s'.InFlight i → s'.InFlight j → i = j := by
    intro i j hi hj
    rcases hi.before hs with hi | ⟨-, rfl, hfree⟩
    · rcases hj.before hs with hj | ⟨-, -, hfree⟩
      · exact h.unique hi hj
      · exact absurd hi (hnobody hfree i)
    · rcases hj.before hs with hj | ⟨-, rfl, -⟩
      · exact absurd hj (hnobody hfree j)
      · rfl
  refine ⟨?_, hunique⟩
  have hkeep : s'.playground.running = s.playground.running → s'.calls = s.calls →
      (s'.playground.running = true ↔ ∃ i, s'.InFlight i) := by
    intro hrunning hcalls
    unfold InFlight
    rw [hrunning, hcalls]
    exact h.running_iff
  cases hs with
  | absent => exact hkeep rfl rfl
  | cleared => exact hkeep rfl rfl
  | edited _ _ hrunning => exact hkeep hrunning rfl
  | accepted hfree =>
    refine ⟨fun _ => ⟨s.calls.length, .accepted, List.getElem?_concat_length, ?_⟩, fun _ => rfl⟩
    intro r hr
    cases hr
  | refused htaken =>
    obtain ⟨i, stage, hi, hopen⟩ := h.running_iff.mp htaken
    refine ⟨fun _ => ⟨i, stage, ?_, hopen⟩, fun _ => htaken⟩
    rw [← hi]
    exact List.getElem?_append_left (List.getElem?_eq_some_iff.mp hi).1
  | @advanced i stage hi =>
    have hlt : i < s.calls.length := (List.getElem?_eq_some_iff.mp hi).1
    have hself : (s.calls.set i (.running (s.playground.step stage).1))[i]? =
        some (.running (s.playground.step stage).1) := List.getElem?_set_self hlt
    rcases step_flag s.playground stage with ⟨r, rfl, hend, hfree⟩ | ⟨hrunning, hends⟩
    · -- the call that gives the flag back was the only one in flight
      have hwas : s.InFlight i := ⟨_, hi, fun r hr => by cases hr⟩
      rw [hfree, Bool.false_eq_true, false_iff]
      rintro ⟨j, hj⟩
      rcases hj.before (.advanced hi) with hold | ⟨hcall, -⟩
      · have hij : j = i := h.unique hold hwas
        subst hij
        obtain ⟨stage, hstage, hopen⟩ := hj
        rw [hself] at hstage
        cases hstage
        exact hopen r rfl
      · cases hcall
    · rw [hrunning, h.running_iff]
      constructor
      · rintro ⟨j, stage', hj, hopen⟩
        rcases stage_of_steps (.advanced hi) hj with ⟨-, hj'⟩ | ⟨hij, hj'⟩
        · exact ⟨j, stage', hj', hopen⟩
        · cases hij
          rw [hi] at hj
          cases hj
          refine ⟨i, _, hself, fun r hr => ?_⟩
          obtain ⟨r', rfl⟩ := hends.mp ⟨r, hr⟩
          exact hopen r' rfl
      · rintro ⟨j, hj⟩
        rcases hj.before (.advanced hi) with hold | ⟨hcall, -⟩
        · exact ⟨j, hold⟩
        · cases hcall

theorem run_exclusive (c : Config) (events : List Event) : (run c events).Exclusive := by
  induction events using List.reverseRecOn with
  | nil =>
    have hnone : ∀ i, ¬ (run c []).InFlight i := by
      rintro i ⟨stage, hi, -⟩
      cases hi
    refine ⟨?_, fun hi => absurd hi (hnone _)⟩
    constructor
    · intro htaken
      cases htaken
    · rintro ⟨i, hi⟩
      exact absurd hi (hnone i)
  | append_singleton events e ih =>
    rw [run_snoc]
    exact ih.step (steps _ e)

/-! ## Runs come to their end -/

theorem advances_iff : e.advances i = true ↔ e = .advance i := by
  cases e with
  | advance j => simp [Event.advances]
  | call | clear | setSource | begin | commit | fail | remove => simp [Event.advances]

/-- Events bring a call forward by its own steps among them, whatever the
others are. -/
theorem stage_foldl (later : List Event) :
    ∀ {s : Traffic} {stage : Stage}, s.calls[i]? = some (.running stage) →
      ∃ stage', (later.foldl step s).calls[i]? = some (.running stage') ∧
        stage'.remaining = stage.remaining - later.countP (Event.advances i) := by
  induction later with
  | nil =>
    intro s stage hi
    exact ⟨stage, hi, rfl⟩
  | cons e rest ih =>
    intro s stage hi
    rw [List.foldl_cons, List.countP_cons]
    rcases stage_of_steps (steps s e) hi with ⟨hne, hi'⟩ | ⟨rfl, hi'⟩
    · obtain ⟨stage', hstage', hremaining⟩ := ih hi'
      refine ⟨stage', hstage', ?_⟩
      rw [hremaining, if_neg (by rwa [advances_iff]), Nat.add_zero]
    · obtain ⟨stage', hstage', hremaining⟩ := ih hi'
      refine ⟨stage', hstage', ?_⟩
      rw [hremaining, if_pos (advances_iff.mpr rfl), remaining_step]
      omega

theorem eq_finished_of_remaining (h : stage.remaining = 0) : ∃ r, stage = .finished r := by
  cases stage with
  | finished r => exact ⟨r, rfl⟩
  | accepted | cleared | frozen | ready | executed | published => cases h

theorem complete_step (p : Playground) (h : ∀ r, stage ≠ .finished r) :
    p.complete stage = (p.step stage).2.complete (p.step stage).1 := by
  cases stage with
  | finished r => exact absurd rfl (h r)
  | accepted | cleared | frozen | ready | executed | published =>
    conv_lhs => unfold complete

/-- The steps that a call has left, taken without a pause, complete it. -/
theorem foldl_replicate_remaining (n : Nat) :
    ∀ {p : Playground} {calls : List Call} {stage : Stage}, stage.remaining = n →
      calls[i]? = some (.running stage) →
      (List.replicate n (Event.advance i)).foldl step ⟨p, calls⟩ =
        ⟨(p.complete stage).2, calls.set i (.running (.finished (p.complete stage).1))⟩ := by
  induction n with
  | zero =>
    intro p calls stage hn hi
    obtain ⟨r, rfl⟩ := eq_finished_of_remaining hn
    have hdone : p.complete (.finished r) = (r, p) := by
      conv_lhs => unfold complete
    obtain ⟨hlt, hget⟩ := List.getElem?_eq_some_iff.mp hi
    rw [hdone, ← hget, List.set_getElem_self]
    rfl
  | succ n ih =>
    intro p calls stage hn hi
    have hopen : ∀ r, stage ≠ .finished r := by
      rintro r rfl
      cases hn
    have hlt : i < calls.length := (List.getElem?_eq_some_iff.mp hi).1
    have hstep : (⟨p, calls⟩ : Traffic).step (.advance i) =
        ⟨(p.step stage).2, calls.set i (.running (p.step stage).1)⟩ := by
      simp only [Traffic.step, hi]
    have hleft : (p.step stage).1.remaining = n := by
      rw [remaining_step, hn]
      rfl
    rw [List.replicate_succ, List.foldl_cons, hstep, ih hleft (List.getElem?_set_self hlt),
      complete_step p hopen, List.set_set]

/-- A call whose steps nothing comes between does what `Playground.run` does. -/
theorem foldl_undisturbed {r : Execution.Result} {p : Playground}
    (h : s.playground.run = .ok (r, p)) :
    (Event.call :: List.replicate 6 (.advance s.calls.length)).foldl step s =
      ⟨p, s.calls ++ [.running (.finished r)]⟩ := by
  cases hfree : s.playground.running with
  | true =>
    rw [Playground.run, accept, if_pos hfree] at h
    cases h
  | false =>
    have hrun : s.playground.run =
        .ok ({ s.playground with running := true }.complete .accepted) := by
      rw [Playground.run, accept, hfree]
      rfl
    rw [hrun] at h
    rw [List.foldl_cons, step_call_of_free hfree,
      foldl_replicate_remaining 6 rfl List.getElem?_concat_length, Except.ok.inj h,
      List.set_append_right _ _ (Nat.le_refl _), Nat.sub_self]
    rfl

end Traffic

end Playground

end Playpen
