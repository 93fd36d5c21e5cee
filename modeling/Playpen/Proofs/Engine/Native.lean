import Playpen.Engine.Run
import Playpen.Proofs.Engine.Computation
import Playpen.Proofs.Engine.Realm

/-!
# Calls of built-in functions

A built-in function is run if the limits of the engine leave room for one more
call, and refused before anything else otherwise (`run_runNative`,
`run_runNative_refused`).  Functions that the engine calls by their places are the
ones that the realm has put there, as long as the heap holds them
(`Realm.machine_holds`, `run_hostCall`).
-/

namespace Playpen.Engine

open M

variable {h : Host} {m : Machine} {i : Invocation} {P : String → Machine → Prop}

/-! ## Calls that are admitted -/

/-- The limits of the engine leave room for one more call. -/
def Admits (m : Machine) : Prop :=
  m.depth < m.limits.recursionLimit ∧ m.stack.size < m.limits.stackSizeLimit

/-- What a call that is not admitted fails with. -/
def refusal (m : Machine) : Thrown :=
  .limit (if m.limits.recursionLimit ≤ m.depth then "exceeded maximum number of recursive calls"
    else "exceeded maximum call stack length") none

theorem run_checkLimits (h : Host) (m : Machine) :
    (Admits m → Call.checkLimits.run h m = .ok () m) ∧
      (¬ Admits m → Call.checkLimits.run h m = .error (refusal m) m) := by
  have hlimits : Call.checkLimits.run h m =
      if m.limits.recursionLimit ≤ m.depth ∨ m.limits.stackSizeLimit ≤ m.stack.size then
        .error (refusal m) m
      else .ok () m := by
    unfold Call.checkLimits refusal
    rw [run_bind, run_look, andThen_ok]
    dsimp only
    by_cases hdeep : m.limits.recursionLimit ≤ m.depth
    · rw [if_pos (Or.inl hdeep), if_pos hdeep, decide_eq_true hdeep]
      rfl
    · by_cases hhigh : m.limits.stackSizeLimit ≤ m.stack.size
      · rw [if_pos (Or.inr hhigh), if_neg hdeep, decide_eq_false hdeep, decide_eq_true hhigh]
        rfl
      · rw [if_neg (not_or.mpr ⟨hdeep, hhigh⟩), decide_eq_false hdeep, decide_eq_false hhigh]
        rfl
  rw [hlimits]
  unfold Admits
  constructor
  · intro hadmits
    rw [if_neg (by omega)]
  · intro hrefused
    rw [if_pos (by omega)]

/-- A native function that is admitted runs under its own name. -/
theorem run_runNative {fn : Native} {v : Value} (hadmits : Admits m)
    (hruns : ∀ name : String, ∃ m', (Realm.behaviour fn i).run h { m with native := name } = .ok v m' ∧
      P name m') :
    ∃ name m', P name m' ∧
      (Step.runNative fn i).run h m = .ok v { m' with native := m.native } := by
  obtain ⟨name, hname⟩ : ∃ name, (Step.nativeName i.self).run h m = .ok name m := ⟨_, rfl⟩
  obtain ⟨m', hrun, hP⟩ := hruns name
  refine ⟨name, m', hP, ?_⟩
  unfold Step.runNative
  rw [run_bind, (run_checkLimits h m).1 hadmits, andThen_ok, run_bind, run_look, andThen_ok,
    run_bind, hname, andThen_ok, run_bind, Step.setNative, run_update, andThen_ok, run_handle,
    run_bind, hrun]
  rfl

theorem run_runNative_refused {fn : Native} (hrefused : ¬ Admits m) :
    (Step.runNative fn i).run h m = .error (refusal m) m := by
  unfold Step.runNative
  rw [run_bind, (run_checkLimits h m).2 hrefused, andThen_error]

/-! ## Calls by a place -/

/-- The function at a place of the heap has a behaviour. -/
def Machine.Holds (m : Machine) (r : Ref) (f : Behaviour) : Prop :=
  Layout.Holds ⟨m.heap, Realm.layout.natives⟩ r f

/-- A machine that no script has touched holds the functions of the realm. -/
theorem Realm.machine_holds {r : Ref} {f : Behaviour} (hlayout : layout.Holds r f) (limits : Limits) :
    (machine limits).Holds r f := by
  unfold Machine.Holds machine
  -- the layout is large: nothing may look into it
  generalize layout = l at *
  exact hlayout

/-- A new object leaves the functions where they are. -/
theorem Machine.Holds.push {r : Ref} {f : Behaviour} (hholds : m.Holds r f) (o : Obj) :
    Machine.Holds { m with heap := m.heap.push o } r f := by
  unfold Machine.Holds at *
  generalize Realm.layout.natives = natives at *
  exact Layout.Holds.push hholds o

theorem Machine.Holds.kind_eq {r : Ref} {f : Behaviour} (hholds : m.Holds r f) :
    ∃ i constructs captures,
      (m.heap.getD r default).kind = .native (.listed i) constructs captures ∧
        Realm.behaviour (.listed i) = f := by
  obtain ⟨i, constructs, captures, hkind, hnative⟩ := hholds
  refine ⟨i, constructs, captures, ?_, ?_⟩
  · obtain ⟨o, ho, hokind⟩ := Option.map_eq_some_iff.mp hkind
    rw [Array.getD_eq_getD_getElem?, ho]
    exact hokind
  · unfold Realm.behaviour
    dsimp only
    rw [Array.getD_eq_getD_getElem?, hnative, Option.getD_some]

/-- A built-in function that is called by its place, and leaves the machine as it
is. -/
theorem run_hostCall {n : Nat} {r : Ref} {f : Behaviour} {this v : Value} {args : Array Value}
    (hholds : m.Holds r f) (hadmits : Admits m)
    (hruns : ∀ name : String, (f ⟨this, args, .undefined, r⟩).run (Run.hostAt n)
      { m with native := name } = .ok v { m with native := name }) :
    ((Run.hostAt (n + 1)).call (.object r) this args m).1 = .ok v m := by
  obtain ⟨i, constructs, captures, hkind, hbehaviour⟩ := hholds.kind_eq
  have hlisted : ∀ name : String, ∃ m',
      (Realm.behaviour (.listed i) ⟨this, args, .undefined, r⟩).run (Run.hostAt n)
        { m with native := name } = .ok v m' ∧ m' = { m with native := name } := by
    intro name
    rw [hbehaviour]
    exact ⟨_, hruns name, rfl⟩
  obtain ⟨name, m', rfl, hrun⟩ :=
    run_runNative (P := fun name m' => m' = { m with native := name }) hadmits hlisted
  show (Run.call (.object r) this args).run (Run.hostAt n) m = .ok v m
  unfold Run.call
  dsimp only
  rw [run_bind, Heap.kindOf, run_look, andThen_ok, hkind]
  exact hrun

end Playpen.Engine
