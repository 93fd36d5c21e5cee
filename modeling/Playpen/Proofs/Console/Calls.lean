import Playpen.Proofs.Console.Formatting
import Playpen.Proofs.Engine.Native
import Playpen.Proofs.Runs.Outcome

/-!
# Console calls

A console call shows its arguments, and then makes its entry.  While it shows
them, other console calls may be made, which make their entries first.  So the
calls of a run are a forest, and its buffer is that forest in postorder, whatever
the calls in it went through (`Sandbox.snapshot_log`).

Only the engine's limits keep a call from being made.  They are looked at before
anything else is done.
-/

namespace Playpen

/-! ## Entries in order -/

namespace Log

/-- The buffer of a journal is the forest of its calls in postorder, numbered. -/
theorem Journal.snapshot_eq (j : Journal) :
    j.buffer.snapshot = .ofCalls (CallTree.postorders j.calls.toList) := by
  rw [Buffer.snapshot_eq, j.recorded]

/-- The entries of new calls come after the old ones. -/
theorem Journal.calls_buffer {j j' : Journal} {made : List CallTree}
    (h : j'.calls.toList = j.calls.toList ++ made) :
    j'.buffer.calls = j.buffer.calls ++ CallTree.postorders made := by
  rw [j'.recorded, h, CallTree.postorders_append, ← j.recorded]

end Log

theorem Sandbox.snapshot_log (s : Sandbox) :
    s.log.snapshot = .ofCalls (Log.CallTree.postorders s.machine.log.calls.toList) :=
  s.machine.log.snapshot_eq

/-! ## One call -/

namespace Engine

open M
open Builtin.Console

variable {h : Host} {m m₁ : Machine} {kind : Log.Kind} {i : Invocation}

/-- A console method shows its arguments and makes its entry. -/
theorem run_record {pieces : List String} {nested : List Log.CallTree}
    (hall : ShowsAll h m i.args.toList pieces nested m₁) :
    (record kind i).run h m =
      .ok .undefined (m₁.closeCall m.log.calls.size kind ("\n".intercalate pieces)) := by
  unfold record
  rw [run_bind, run_logCall, run_bind, hall.run]
  rfl

/-- A console call that the limits of the engine admit never throws.  It shows its
arguments from left to right, and leaves one tree: its own kind and text over the
calls made meanwhile.  Its own entry comes last, behind those of the tree below
it.  A call that is not admitted fails with the limit before anything is shown,
and leaves the log as it is.

So whatever a sandbox has been through, its log is the forest of the calls in
postorder, numbered.  And what becomes of one argument, which may be that it
cannot be shown, has no bearing on the texts of the others but by the machine
that it leaves behind. -/
theorem console_call (h : Host) (m : Machine) (kind : Log.Kind) (i : Invocation) :
    (Admits m → ∃ name pieces nested m₁ m',
      ShowsAll h { m with native := name } i.args.toList pieces nested m₁ ∧
      (Step.runNative (.console kind) i).run h m = .ok .undefined m' ∧
      m'.log.calls.toList =
        m.log.calls.toList ++ [.node kind ("\n".intercalate pieces) nested] ∧
      m'.log.buffer.calls = m.log.buffer.calls ++ Log.CallTree.postorders nested ++
        [(kind, "\n".intercalate pieces)]) ∧
    (¬ Admits m → (Step.runNative (.console kind) i).run h m = .error (refusal m) m) ∧
    (∀ s : Sandbox,
      s.log.snapshot = .ofCalls (Log.CallTree.postorders s.machine.log.calls.toList)) ∧
    ∀ (m m₁ m₂ : Machine) (before after : List Value) (v w : Value) (pieces : List String)
      (s t : String) (nested : List Log.CallTree),
      ShowsAll h m before pieces nested m₁ → Shows h m₁ v s m₂ → Shows h m₁ w t m₂ →
      ∃ others further m₃,
        ShowsAll h m (before ++ v :: after) (pieces ++ s :: others) further m₃ ∧
        ShowsAll h m (before ++ w :: after) (pieces ++ t :: others) further m₃ := by
  refine ⟨?_, run_runNative_refused, Sandbox.snapshot_log, ?_⟩
  · intro hadmits
    have hruns : ∀ name : String, ∃ m',
        (Realm.behaviour (.console kind) i).run h { m with native := name } = .ok .undefined m' ∧
        ∃ pieces nested m₁, ShowsAll h { m with native := name } i.args.toList pieces nested m₁ ∧
          m' = m₁.closeCall m.log.calls.size kind ("\n".intercalate pieces) := by
      intro name
      obtain ⟨pieces, nested, m₁, hall⟩ :=
        exists_showsAll h { m with native := name } i.args.toList
      exact ⟨_, run_record hall, pieces, nested, m₁, hall, rfl⟩
    obtain ⟨name, m', ⟨pieces, nested, m₁, hall, rfl⟩, hrun⟩ := run_runNative hadmits hruns
    have hcalls := Log.Journal.calls_close hall.calls kind ("\n".intercalate pieces)
    refine ⟨name, pieces, nested, m₁, _, hall, hrun, hcalls, ?_⟩
    have hbuffer := Log.Journal.calls_buffer hall.calls
    show ((m₁.log.buffer).push kind ("\n".intercalate pieces)).calls = _
    rw [Log.Buffer.calls_push, hbuffer]
  · intro m m₁ m₂ before after v w pieces s t nested hbefore hv hw
    exact hbefore.replace hv hw

/-- An engine in which whatever is called warns of it and gives a text. -/
def chatty : Host where
  call _ _ _ := (do
    M.logCall .warn (return "inside")
    return Value.str "outside" : M Value) Run.host
  construct := Run.host.construct
  resume := Run.host.resume

/-- A warning in a machine. -/
def warnedInside (m : Machine) : Machine := m.closeCall m.log.calls.size .warn "inside"

theorem texts_chatty (m : Machine) : (texts [.null, .undefined]).run chatty m =
    .ok ["outside", "outside"] (warnedInside (warnedInside m)) := rfl

/-- Two arguments that make console calls while they are shown: both come first,
and the call that they are arguments of is completed last. -/
theorem console_call_chatty :
    let m := Realm.machine Config.standard.limits
    Admits m ∧ ∃ m',
      (Step.runNative (.console .log) ⟨.undefined, #[.null, .undefined], .undefined, 0⟩).run chatty m =
        .ok .undefined m' ∧
      m'.log.calls.toList = [.node .log "outside\noutside"
        [.node .warn "inside" [], .node .warn "inside" []]] ∧
      m'.log.buffer.calls = [(.warn, "inside"), (.warn, "inside"), (.log, "outside\noutside")] := by
  intro m
  have hadmits : Admits m :=
    ⟨(by decide : 0 < Config.standard.limits.recursionLimit),
      (by decide : 0 < Config.standard.limits.stackSizeLimit)⟩
  obtain ⟨name, pieces, nested, m₁, m', hall, hrun, hcalls, hbuffer⟩ :=
    (console_call chatty m .log ⟨.undefined, #[.null, .undefined], .undefined, 0⟩).1 hadmits
  refine ⟨hadmits, m', hrun, ?_⟩
  have hpieces := hall.run
  have hnested := hall.calls
  rw [texts_chatty] at hpieces
  cases hpieces
  have hinside : (warnedInside (warnedInside { m with native := name })).log.calls.toList =
      [.node .warn "inside" [], .node .warn "inside" []] := rfl
  have hbefore : m.log.calls.toList = [] := rfl
  rw [hinside] at hnested
  rw [hcalls, hbuffer, hbefore, ← show _ = nested from hnested]
  exact ⟨rfl, rfl⟩

/-- A fresh machine inside of one function, where no more than that is admitted. -/
def crowded : Machine :=
  { Realm.machine { Config.standard.limits with recursionLimit := 1 } with depth := 1 }

/-- There a console call throws, and leaves no entry. -/
theorem console_call_crowded :
    (Step.runNative (.console .log) ⟨.undefined, #[.number 1], .undefined, 0⟩).run Run.host crowded =
      .error (.limit "exceeded maximum number of recursive calls" none) crowded ∧
    crowded.log.buffer.calls = [] := by
  constructor
  · have hrefused : ¬ Admits crowded := fun hadmits => Nat.lt_irrefl 1 hadmits.1
    exact run_runNative_refused hrefused
  · rfl

end Engine

end Playpen
