import Playpen.Execution
import Mathlib.Data.List.Basic

/-!
# What a run leaves behind

The course of a run is told by the console calls that the engine makes in each
part of it, and by how the part ends.  `Course` has one case for each way out:
a source that is not transpiled, a sandbox or a console that is not to be had,
a script that comes to its end, and a script that throws, whose thrown value is
described and may make calls while that is done.

Numbers do not occur in a course.  A buffer is as good as the list of its calls
(`Buffer.snapshot_eq`), and what the engine does appends to that list
(`Buffer.Grows.exists_calls`), so the outcome of a run is the calls of its
course, numbered, with the failure after them if there is one.
-/

namespace Playpen

open Engine (Value Thrown M)
open Dependency (Bundle)

/-! ## Calls and numbers -/

namespace Log

/-- The entries of calls, numbered in order. -/
def Transcript.ofCalls (calls : List Call) : Transcript :=
  ⟨calls.mapIdx fun i call => ⟨call.1, call.2, i⟩⟩

@[simp] theorem Transcript.length_ofCalls (calls : List Call) :
    (ofCalls calls).entries.length = calls.length := by
  simp [ofCalls]

theorem Transcript.sequence_ofCalls (calls : List Call) :
    (ofCalls calls).entries.map Entry.sequence = List.range (ofCalls calls).entries.length := by
  apply List.ext_getElem
  · simp
  · intro i _ _
    simp [ofCalls]

theorem Entry.eq_of_sequence {e : Entry} {i : Nat} (h : e.sequence = i) :
    e = ⟨e.kind, e.content, i⟩ := by
  subst h
  rfl

/-- A buffer is its calls, since its entries bear their positions. -/
theorem Buffer.snapshot_eq (b : Buffer) : b.snapshot = .ofCalls b.calls := by
  show Transcript.mk _ = Transcript.mk _
  congr 1
  apply List.ext_getElem
  · simp [calls]
  · intro i hi _
    rw [List.getElem_mapIdx]
    simp only [calls, List.getElem_map, Array.getElem_toList]
    exact Entry.eq_of_sequence (b.numbered i (by simpa using hi))

theorem Buffer.Grows.exists_calls {b b' : Buffer} (h : b.Grows b') :
    ∃ calls, b'.calls = b.calls ++ calls := by
  obtain ⟨more, hmore⟩ := h
  refine ⟨more.map fun e => (e.kind, e.content), ?_⟩
  rw [calls, calls, ← hmore, List.map_append]

end Log

/-! ## The course of a run -/

/-- The outcome that a run with these calls must have: failed if there is the
text of a failure, which then comes last. -/
def Execution.Outcome.after (calls : List Log.Call) : Option String → Execution.Outcome
  | none => .completed (.ofCalls calls)
  | some text => .failed (.ofCalls (calls ++ [(.error, text)]))

namespace Platform

/-- From one state to the other, the engine has made these calls, in order. -/
def Makes (p : Platform) (s : p.State) (calls : List Log.Call) (s' : p.State) : Prop :=
  (p.log s').calls = (p.log s).calls ++ calls

/-- How the evaluation of a script may go: the function is not made, it throws,
a job that it has left behind throws, or all come to their end. -/
inductive Evaluates (p : Platform) (s : p.State) (script : String) (b : Bindings) :
    List Log.Call → Except Thrown Value → p.State → Prop where
  | unmade {e : Thrown} {s₁ : p.State} {made : List Log.Call} :
      p.construct s (b.names ++ [script]) = (.error e, s₁) → p.Makes s made s₁ →
      p.Evaluates s script b made (.error e) s₁
  | thrown {f : Value} {e : Thrown} {s₁ s₂ : p.State} {made called : List Log.Call} :
      p.construct s (b.names ++ [script]) = (.ok f, s₁) → p.Makes s made s₁ →
      p.call s₁ f b.values = (.error e, s₂) → p.Makes s₁ called s₂ →
      p.Evaluates s script b (made ++ called) (.error e) s₂
  | undrained {f v : Value} {e : Thrown} {s₁ s₂ s₃ : p.State}
      {made called drained : List Log.Call} :
      p.construct s (b.names ++ [script]) = (.ok f, s₁) → p.Makes s made s₁ →
      p.call s₁ f b.values = (.ok v, s₂) → p.Makes s₁ called s₂ →
      p.drain s₂ = (.error e, s₃) → p.Makes s₂ drained s₃ →
      p.Evaluates s script b (made ++ called ++ drained) (.error e) s₃
  | returned {f v : Value} {s₁ s₂ s₃ : p.State} {made called drained : List Log.Call} :
      p.construct s (b.names ++ [script]) = (.ok f, s₁) → p.Makes s made s₁ →
      p.call s₁ f b.values = (.ok v, s₂) → p.Makes s₁ called s₂ →
      p.drain s₂ = (.ok (), s₃) → p.Makes s₂ drained s₃ →
      p.Evaluates s script b (made ++ called ++ drained) (.ok v) s₃

/-- A run comes as far as evaluating a script: the source is transpiled, the
sandbox and its console are there, and the dependencies are bound. -/
inductive Prepares (p : Platform) (source : String) (dependencies : List (String × Bundle))
    (c : Config) : List Log.Call → String → Bindings → p.State → Prop where
  | intro {script : String} {console : Value} {b : Bindings} {s₀ s₁ s₂ : p.State}
      {warnings : List String} {shown linked : List Log.Call} :
      p.transpile c.dialect source = .ok script → p.sandbox c.limits = .ok s₀ →
      p.console s₀ = (.ok console, s₁) → p.Makes s₀ shown s₁ →
      p.bind s₁ (Bindings.empty.push "console" console) dependencies = (b, s₂, warnings) →
      p.Makes s₁ linked s₂ →
      p.Prepares source dependencies c (shown ++ linked) script b s₂

/-- How a run may go: the calls that the engine makes, in order, and the text of
the failure if it fails. -/
inductive Course (p : Platform) (source : String) (dependencies : List (String × Bundle))
    (c : Config) : List Log.Call → Option String → Prop where
  | untranspiled {e : Transpile.Error} :
      p.transpile c.dialect source = .error e →
      p.Course source dependencies c [] (some e.message)
  | unsandboxed {script : String} {e : Sandbox.Error} :
      p.transpile c.dialect source = .ok script → p.sandbox c.limits = .error e →
      p.Course source dependencies c [] (some e.message)
  | unconsoled {script : String} {e : Sandbox.Error} {s s' : p.State} {shown : List Log.Call} :
      p.transpile c.dialect source = .ok script → p.sandbox c.limits = .ok s →
      p.console s = (.error e, s') → p.Makes s shown s' →
      p.Course source dependencies c shown (some e.message)
  | completed {script : String} {b : Bindings} {v : Value} {s s' : p.State}
      {before during : List Log.Call} :
      p.Prepares source dependencies c before script b s →
      p.Evaluates s script b during (.ok v) s' →
      p.Course source dependencies c (before ++ during) none
  | failed {script text : String} {b : Bindings} {e : Thrown} {s s' s'' : p.State}
      {before during after : List Log.Call} :
      p.Prepares source dependencies c before script b s →
      p.Evaluates s script b during (.error e) s' →
      p.describe s' e = (text, s'') → p.Makes s' after s'' →
      p.Course source dependencies c (before ++ during ++ after) (some text)

variable {p : Platform}

theorem Makes.trans {s s' s'' : p.State} {calls more : List Log.Call} (h : p.Makes s calls s')
    (k : p.Makes s' more s'') : p.Makes s (calls ++ more) s'' := by
  unfold Makes at *
  rw [k, h, List.append_assoc]

/-! ## Every run has a course -/

theorem exists_makes_bind (s : p.State) (b : Bindings) (dependencies : List (String × Bundle)) :
    ∃ calls, p.Makes s calls (p.bind s b dependencies).2.1 := by
  induction dependencies generalizing s b with
  | nil => exact ⟨[], by simp [Makes, bind]⟩
  | cons dependency rest ih =>
    obtain ⟨name, bundle⟩ := dependency
    obtain ⟨linked, hlinked⟩ := (p.grows_link s name bundle).exists_calls
    rw [bind]
    cases hlink : p.link s name bundle with
    | mk r s₁ =>
      rw [hlink] at hlinked
      cases r with
      | ok v =>
        obtain ⟨more, hmore⟩ := ih s₁ (b.push (Dependency.bindingIdentifier name) v)
        exact ⟨linked ++ more, Makes.trans hlinked hmore⟩
      | error e =>
        obtain ⟨more, hmore⟩ := ih s₁ b
        exact ⟨linked ++ more, Makes.trans hlinked hmore⟩

theorem exists_evaluates (s : p.State) (script : String) (b : Bindings) :
    ∃ calls r s', p.Evaluates s script b calls r s' := by
  obtain ⟨made, hmade⟩ := (p.grows_construct s (b.names ++ [script])).exists_calls
  cases hconstruct : p.construct s (b.names ++ [script]) with
  | mk r s₁ =>
    rw [hconstruct] at hmade
    cases r with
    | error e => exact ⟨_, _, _, .unmade hconstruct hmade⟩
    | ok f =>
      obtain ⟨called, hcalled⟩ := (p.grows_call s₁ f b.values).exists_calls
      cases hcall : p.call s₁ f b.values with
      | mk r s₂ =>
        rw [hcall] at hcalled
        cases r with
        | error e => exact ⟨_, _, _, .thrown hconstruct hmade hcall hcalled⟩
        | ok v =>
          obtain ⟨drained, hdrained⟩ := (p.grows_drain s₂).exists_calls
          cases hdrain : p.drain s₂ with
          | mk r s₃ =>
            rw [hdrain] at hdrained
            cases r with
            | error e =>
              exact ⟨_, _, _, .undrained hconstruct hmade hcall hcalled hdrain hdrained⟩
            | ok _ => exact ⟨_, _, _, .returned hconstruct hmade hcall hcalled hdrain hdrained⟩

section

variable {source : String} {dependencies : List (String × Bundle)} {c : Config}

variable (p source dependencies c) in
theorem exists_course : ∃ calls failure, p.Course source dependencies c calls failure := by
  cases htranspile : p.transpile c.dialect source with
  | error e => exact ⟨_, _, .untranspiled htranspile⟩
  | ok script =>
    cases hsandbox : p.sandbox c.limits with
    | error e => exact ⟨_, _, .unsandboxed htranspile hsandbox⟩
    | ok s =>
      obtain ⟨shown, hshown⟩ := (p.grows_console s).exists_calls
      cases hconsole : p.console s with
      | mk r s₁ =>
        rw [hconsole] at hshown
        cases r with
        | error e => exact ⟨_, _, .unconsoled htranspile hsandbox hconsole hshown⟩
        | ok console =>
          cases hbind : p.bind s₁ (Bindings.empty.push "console" console) dependencies with
          | mk b rest =>
            obtain ⟨s₂, warnings⟩ := rest
            obtain ⟨linked, hlinked⟩ :=
              exists_makes_bind s₁ (Bindings.empty.push "console" console) dependencies
            rw [hbind] at hlinked
            have hprepares : p.Prepares source dependencies c (shown ++ linked) script b s₂ :=
              .intro htranspile hsandbox hconsole hshown hbind hlinked
            obtain ⟨during, r, s₃, hduring⟩ := exists_evaluates s₂ script b
            cases r with
            | ok v => exact ⟨_, _, .completed hprepares hduring⟩
            | error e =>
              obtain ⟨after, hafter⟩ := (p.grows_describe s₃ e).exists_calls
              exact ⟨_, _, .failed hprepares hduring rfl hafter⟩

/-! ## The course tells the outcome -/

theorem Evaluates.eq {s s' : p.State} {script : String} {b : Bindings} {calls : List Log.Call}
    {r : Except Thrown Value} (h : p.Evaluates s script b calls r s') :
    p.evaluate s script b = (r, s') ∧ p.Makes s calls s' := by
  cases h with
  | unmade hconstruct hmade =>
    exact ⟨by simp only [evaluate, hconstruct], hmade⟩
  | thrown hconstruct hmade hcall hcalled =>
    exact ⟨by simp only [evaluate, hconstruct, hcall], hmade.trans hcalled⟩
  | undrained hconstruct hmade hcall hcalled hdrain hdrained =>
    exact ⟨by simp only [evaluate, hconstruct, hcall, hdrain],
      (hmade.trans hcalled).trans hdrained⟩
  | returned hconstruct hmade hcall hcalled hdrain hdrained =>
    exact ⟨by simp only [evaluate, hconstruct, hcall, hdrain],
      (hmade.trans hcalled).trans hdrained⟩

theorem calls_of_sandbox {limits : Limits} {s s' : p.State} {calls : List Log.Call}
    (hsandbox : p.sandbox limits = .ok s) (h : p.Makes s calls s') :
    (p.log s').calls = calls := by
  rw [h, p.log_sandbox limits s hsandbox]
  rfl

theorem Prepares.eq {script : String} {b : Bindings} {s : p.State} {calls : List Log.Call}
    (h : p.Prepares source dependencies c calls script b s) :
    (p.execute source dependencies c).outcome = p.finish s script b ∧
      (p.log s).calls = calls := by
  obtain ⟨htranspile, hsandbox, hconsole, hshown, hbind, hlinked⟩ := h
  exact ⟨by simp only [execute, htranspile, hsandbox, hconsole, hbind],
    calls_of_sandbox hsandbox (hshown.trans hlinked)⟩

theorem failure_eq (b : Log.Buffer) (message : String) :
    Execution.failure b message = .after b.calls (some message) := by
  unfold Execution.failure
  rw [Log.Buffer.snapshot_eq, Log.Buffer.calls_push]
  rfl

theorem Course.outcome_eq {calls : List Log.Call} {failure : Option String}
    (h : p.Course source dependencies c calls failure) :
    (p.execute source dependencies c).outcome = .after calls failure := by
  cases h with
  | untranspiled htranspile =>
    simp only [execute, htranspile, failure_eq, Log.Buffer.calls_empty]
  | unsandboxed htranspile hsandbox =>
    simp only [execute, htranspile, hsandbox, failure_eq, Log.Buffer.calls_empty]
  | unconsoled htranspile hsandbox hconsole hshown =>
    simp only [execute, htranspile, hsandbox, hconsole, failure_eq,
      calls_of_sandbox hsandbox hshown]
  | completed hprepares hduring =>
    obtain ⟨hexecute, hbefore⟩ := hprepares.eq
    obtain ⟨hevaluate, hmakes⟩ := hduring.eq
    rw [hexecute, finish, hevaluate]
    show Execution.Outcome.completed (p.log _).snapshot = _
    rw [Log.Buffer.snapshot_eq, hmakes, hbefore]
    rfl
  | failed hprepares hduring hdescribe hafter =>
    obtain ⟨hexecute, hbefore⟩ := hprepares.eq
    obtain ⟨hevaluate, hmakes⟩ := hduring.eq
    rw [hexecute, finish, hevaluate]
    simp only [hdescribe, failure_eq]
    rw [hafter, hmakes, hbefore]

/-! ## What every outcome is like -/

/-- A run fails where transpiling fails, or the sandbox or its console is not to
be had, or the evaluation throws. -/
theorem isFailed_execute_iff :
    (p.execute source dependencies c).outcome.isFailed = true ↔
      (∃ e, p.transpile c.dialect source = .error e) ∨
      (∃ e, p.sandbox c.limits = .error e) ∨
      (∃ s e s', p.sandbox c.limits = .ok s ∧ p.console s = (.error e, s')) ∨
      ∃ before script b s during e s', p.Prepares source dependencies c before script b s ∧
        p.Evaluates s script b during (.error e) s' := by
  constructor
  · intro hfailed
    obtain ⟨calls, failure, hcourse⟩ := exists_course p source dependencies c
    rw [hcourse.outcome_eq] at hfailed
    cases hcourse with
    | untranspiled htranspile => exact .inl ⟨_, htranspile⟩
    | unsandboxed _ hsandbox => exact .inr (.inl ⟨_, hsandbox⟩)
    | unconsoled _ hsandbox hconsole _ => exact .inr (.inr (.inl ⟨_, _, _, hsandbox, hconsole⟩))
    | completed => cases hfailed
    | failed hprepares hduring _ _ =>
      exact .inr (.inr (.inr ⟨_, _, _, _, _, _, _, hprepares, hduring⟩))
  · -- a transpiler that fails hides whether there would have been a sandbox
    cases htranspile : p.transpile c.dialect source with
    | error e =>
      intro _
      rw [(Course.untranspiled htranspile).outcome_eq]
      rfl
    | ok script =>
      rintro (⟨e, h⟩ | ⟨e, hsandbox⟩ | ⟨s, e, s', hsandbox, hconsole⟩ |
        ⟨before, script, b, s, during, e, s', hprepares, hduring⟩)
      · cases h
      · rw [(Course.unsandboxed htranspile hsandbox).outcome_eq]
        rfl
      · simp only [execute, htranspile, hsandbox, hconsole]
        rfl
      · rw [hprepares.eq.1, finish, hduring.eq.1]
        rfl

/-- A run has a course, and its outcome is the calls of the course, numbered from
zero, with the text of the failure after them, as an error, if it has failed.  It
fails exactly if transpiling, the sandbox, its console or the evaluation does,
jobs included, and of a source that is not transpiled nothing but the failure is
left. -/
theorem execute_course (p : Platform) (source : String) (dependencies : List (String × Bundle))
    (c : Config) :
    (∃ calls failure, p.Course source dependencies c calls failure) ∧
    (∀ calls failure, p.Course source dependencies c calls failure →
      (p.execute source dependencies c).outcome = .after calls failure) ∧
    (p.execute source dependencies c).outcome.log.entries.map Log.Entry.sequence =
      List.range (p.execute source dependencies c).outcome.log.entries.length ∧
    ((p.execute source dependencies c).outcome.isFailed = true ↔
      (∃ e, p.transpile c.dialect source = .error e) ∨
      (∃ e, p.sandbox c.limits = .error e) ∨
      (∃ s e s', p.sandbox c.limits = .ok s ∧ p.console s = (.error e, s')) ∨
      ∃ before script b s during e s', p.Prepares source dependencies c before script b s ∧
        p.Evaluates s script b during (.error e) s') ∧
    ((∃ e, p.transpile c.dialect source = .error e) →
      (p.execute source dependencies c).outcome.log.entries.length = 1) := by
  obtain ⟨calls, failure, hcourse⟩ := exists_course p source dependencies c
  refine ⟨⟨calls, failure, hcourse⟩, fun _ _ h => h.outcome_eq, ?_, isFailed_execute_iff, ?_⟩
  · rw [hcourse.outcome_eq]
    cases failure with
    | none => exact Log.Transcript.sequence_ofCalls calls
    | some text => exact Log.Transcript.sequence_ofCalls (calls ++ [(.error, text)])
  · rintro ⟨e, htranspile⟩
    rw [(Course.untranspiled htranspile).outcome_eq]
    rfl

end

/-! ## The engine of this project -/

end Platform

theorem Sandbox.perform_bind {α β : Type} (s : Sandbox) (x : M α) (f : α → M β) :
    s.perform (x >>= f) =
      match s.perform x with
      | (.ok a, s) => s.perform (f a)
      | (.error e, s) => (.error e, s) := by
  show s.perform (M.bind x f) = _
  unfold perform M.bind
  cases x Engine.Run.host s.machine with
  | mk r _ =>
    cases r with
    | error e m => rfl
    | ok a m =>
      dsimp only
      cases f a Engine.Run.host m with
      | mk r _ => cases r <;> rfl

/-- Evaluating in a sandbox is what a run does with a script. -/
theorem Platform.evaluate_standard (s : Sandbox) (script : String) (b : Bindings) :
    Platform.standard.evaluate s script b = s.evaluate script b := by
  unfold Sandbox.evaluate Engine.evaluate
  rw [Sandbox.perform_bind]
  unfold evaluate standard
  dsimp only
  cases s.perform (Engine.functionOf (b.names ++ [script])) with
  | mk r s =>
    cases r with
    | error e => rfl
    | ok f =>
      dsimp only
      rw [Sandbox.perform_bind]
      cases s.perform (M.call f .undefined b.values.toArray) with
      | mk r s =>
        cases r with
        | error e => rfl
        | ok v =>
          dsimp only
          rw [Sandbox.perform_bind]
          cases s.perform Engine.Run.jobs with
          | mk r s => cases r <;> rfl

end Playpen
