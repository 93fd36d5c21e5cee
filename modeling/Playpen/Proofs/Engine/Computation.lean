import Playpen.Engine.Builtin.Console

/-!
# How computations end

A computation of the engine is followed by its ending, `run`, with one equation
for each way to make a computation from others.  That a log only grows is part
of a computation's type and stays out of these equations; it is
`extends_run`.
-/

namespace Playpen.Engine

open M

namespace M

variable {α β : Type}

/-- How a computation ends. -/
def run (x : M α) (h : Host) (m : Machine) : Ending α := (x h m).1

theorem extends_run (x : M α) (h : Host) (m : Machine) : m.Extends (x.run h m).machine := (x h m).2

variable {h : Host} {m : Machine}

@[simp] theorem run_pure (a : α) : (pure a : M α).run h m = .ok a m := rfl

/-- What comes after a computation that has ended. -/
def andThen (r : Ending α) (f : α → M β) (h : Host) : Ending β :=
  match r with
  | .ok a m => (f a).run h m
  | .error e m => .error e m

@[simp] theorem andThen_ok (a : α) (m : Machine) (f : α → M β) :
    andThen (.ok a m) f h = (f a).run h m := rfl

@[simp] theorem andThen_error (e : Thrown) (m : Machine) (f : α → M β) :
    andThen (.error e m) f h = .error e m := rfl

theorem run_bind (x : M α) (f : α → M β) : (x >>= f).run h m = andThen (x.run h m) f h := by
  show (M.bind x f h m).1 = _
  unfold M.bind run andThen
  cases x h m with
  | mk r _ => cases r <;> rfl

@[simp] theorem run_fail (e : Thrown) : (fail e : M α).run h m = .error e m := rfl

@[simp] theorem run_look (f : Machine → α) : (look f).run h m = .ok (f m) m := rfl

@[simp] theorem run_update (f : Machine → Machine) (hlog : ∀ m, (f m).log = m.log) :
    (update f hlog).run h m = .ok () (f m) := rfl

@[simp] theorem run_call (f this : Value) (args : Array Value) :
    (call f this args).run h m = (h.call f this args m).1 := rfl

/-- The ending of a computation whose ending is a value. -/
def attempted : Ending α → Ending (Except Thrown α)
  | .ok a m => .ok (.ok a) m
  | .error e m => .ok (.error e) m

@[simp] theorem run_attempt (x : M α) : (attempt x).run h m = attempted (x.run h m) := by
  show (attempt x h m).1 = attempted (x h m).1
  unfold attempt
  cases x h m with
  | mk r _ => cases r <;> rfl

/-- The ending of a computation whose errors are handled. -/
def handled (r : Ending α) (f : Thrown → M α) (h : Host) : Ending α :=
  match r with
  | .ok a m => .ok a m
  | .error e m => (f e).run h m

@[simp] theorem run_handle (x : M α) (f : Thrown → M α) :
    (handle x f).run h m = handled (x.run h m) f h := by
  show (handle x f h m).1 = handled (x h m).1 f h
  unfold handle
  cases x h m with
  | mk r _ => cases r <;> rfl

/-- The ending of a console call whose text is made by a computation. -/
def logged (n : Nat) (k : Log.Kind) : Ending String → Ending Unit
  | .ok s m => .ok () (m.closeCall n k s)
  | .error e m => .error e m

@[simp] theorem run_logCall (k : Log.Kind) (content : M String) :
    (logCall k content).run h m = logged m.log.calls.size k (content.run h m) := by
  show (logCall k content h m).1 = logged m.log.calls.size k (content h m).1
  unfold logCall
  dsimp only
  cases content h m with
  | mk r _ => cases r <;> rfl

end M

end Playpen.Engine
