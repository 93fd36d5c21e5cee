import Playpen.Proofs.Console.Formatting
import Playpen.Proofs.Engine.Native
import Playpen.Proofs.Runs.Outcome

/-!
# What is said of a failure

Whatever a script throws is described, and so is whatever the engine raises; the
description is the last entry of a run that fails.  Saying nothing at all is left
to the script: it throws something that looks like an error, an object whose
message is a text, and has `String` make the empty text of it
(`run_describe`).  Nothing else that is thrown is described by the empty text,
and no other failure is (`failure_said`).  There are such objects
(`describe_mute`).
-/

namespace Playpen

open Engine (Thrown)
open Dependency (Bundle)

namespace Engine

open M
open Builtin.Console

variable {h : Host} {m : Machine}

/-! ## What is thrown -/

theorem append_ne_empty {s : String} (hs : s ≠ "") (t : String) : s ++ t ≠ "" := by
  intro happend
  rw [String.append_eq_empty_iff] at happend
  exact hs happend.1

theorem run_isErrorLike (h : Host) (m : Machine) (v : Value) :
    ∃ b m', (isErrorLike v).run h m = .ok b m' := by
  unfold isErrorLike
  cases v with
  | object r =>
    dsimp only
    rw [run_bind, run_attempt]
    cases (Object.getNamed r "message").run h m with
    | error e m' => exact ⟨false, m', rfl⟩
    | ok u m' =>
      cases u with
      | text w => exact ⟨true, m', rfl⟩
      | _ => exact ⟨false, m', rfl⟩
  | _ => exact ⟨false, m, rfl⟩

/-- A value that looks like an error, and of which `String` makes the empty
text. -/
def SaysNothing (h : Host) (m : Machine) (e : Thrown) : Prop :=
  ∃ v m₁ m₂, e = .value v ∧ (isErrorLike v).run h m = .ok true m₁ ∧ Coerces h m₁ v (some "") m₂

/-- A thrown value is described, and by the empty text only if it says nothing. -/
theorem run_describeValue (h : Host) (m : Machine) (v : Value) :
    ∃ text m', (describeValue v).run h m = .ok text m' ∧
      (text = "" ↔ SaysNothing h m (.value v)) := by
  obtain ⟨errorLike, m₁, hlike⟩ := run_isErrorLike h m v
  obtain ⟨said, m₂, hcoerces⟩ := exists_coerces h m₁ v
  have hiff : SaysNothing h m (.value v) ↔ errorLike = true ∧ said = some "" := by
    constructor
    · rintro ⟨_, m₁', m₂', ⟨⟩, hlike', hcoerces'⟩
      rw [hlike] at hlike'
      cases hlike'
      exact ⟨rfl, (hcoerces.unique hcoerces').1⟩
    · rintro ⟨rfl, rfl⟩
      exact ⟨v, m₁, m₂, rfl, hlike, hcoerces⟩
  unfold describeValue
  rw [run_bind, hlike, andThen_ok, run_bind, hcoerces.run, andThen_ok, hiff]
  cases said with
  | none =>
    refine ⟨"Error: " ++ unprintable, m₂, ?_, ?_⟩
    · cases errorLike with
      | true => rfl
      | false => rfl
    · simp [unprintable]
  | some text =>
    cases errorLike with
    | true => exact ⟨text, m₂, rfl, by simp⟩
    | false => exact ⟨"Error: " ++ text, m₂, rfl, by simp⟩

theorem intercalate_ne_empty {s : String} (hs : s ≠ "") (sep : String) (rest : List String) :
    sep.intercalate (s :: rest) ≠ "" := by
  intro hempty
  have hlist := congrArg String.toList hempty
  rw [String.toList_intercalate] at hlist
  cases rest with
  | nil =>
    simp at hlist
    exact hs hlist
  | cons t rest =>
    simp [List.intercalate] at hlist
    exact hs hlist.1

theorem faultText_ne_empty {label : String} (hlabel : label ≠ "") (message : String)
    (trace : Option (List String)) : faultText label message trace ≠ "" := by
  unfold faultText
  apply intercalate_ne_empty
  split
  · exact hlabel
  · exact append_ne_empty (append_ne_empty hlabel _) _

/-- Whatever is thrown is described, and by the empty text only if it is a value
that says nothing. -/
theorem run_describe (h : Host) (m : Machine) (e : Thrown) :
    ∃ text m', (describe e).run h m = .ok text m' ∧ (text = "" ↔ SaysNothing h m e) := by
  have hraised : ∀ {e : Thrown}, (∀ v, e ≠ .value v) → ¬ SaysNothing h m e := by
    rintro e hne ⟨v, -, -, rfl, -⟩
    exact hne v rfl
  cases e with
  | value v => exact run_describeValue h m v
  | raised kind message trace =>
    have hlabel : kind.label ≠ "" := by cases kind <;> decide
    exact ⟨_, m, rfl, iff_of_false (faultText_ne_empty hlabel message trace) (hraised nofun)⟩
  | limit message trace =>
    exact ⟨_, m, rfl, iff_of_false (faultText_ne_empty (by decide) message trace) (hraised nofun)⟩

end Engine

/-! ## What the log ends with -/

theorem Sandbox.describe_eq_empty_iff (s : Sandbox) (e : Thrown) :
    (s.describe e).1 = "" ↔ Engine.SaysNothing Engine.Run.host s.machine e := by
  obtain ⟨text, m', hrun, hiff⟩ := Engine.run_describe Engine.Run.host s.machine e
  have htext : s.describe e = (text, ⟨m'⟩) := by
    unfold Engine.M.run at hrun
    unfold describe performOr perform
    cases hends : Engine.describe e Engine.Run.host s.machine with
    | mk r _ =>
      rw [hends] at hrun
      subst hrun
      rfl
  rw [htext, ← hiff]

theorem Transpile.Error.message_ne_empty (e : Transpile.Error) : e.message ≠ "" := by
  cases e with
  | malformed complaints => exact Engine.append_ne_empty (by decide) _
  | unsupported complaints => exact Engine.append_ne_empty (by decide) _

theorem Sandbox.Error.message_ne_empty (e : Sandbox.Error) : e.message ≠ "" := by
  have hbegins : ∀ {s : String} (t : String), s ≠ "" → s ++ t ≠ "" :=
    fun t hs => Engine.append_ne_empty hs t
  cases e with
  | bindingMismatch names values =>
    exact hbegins _ (hbegins _ (hbegins _ (hbegins _ (by decide))))
  | engine message => exact hbegins _ (by decide)
  | link name message => exact hbegins _ (hbegins _ (hbegins _ (by decide)))

section

variable {source : String} {dependencies : List (String × Bundle)} {c : Config}

variable (source dependencies c) in
/-- The script of a run throws something that says nothing. -/
def ThrowsNothing : Prop :=
  ∃ before script b s during e s',
    Platform.standard.Prepares source dependencies c before script b s ∧
    Platform.standard.Evaluates s script b during (.error e) s' ∧
    Engine.SaysNothing Engine.Run.host s'.machine e

/-- The last entry of a failure tells its text. -/
theorem Execution.Outcome.after_inj {calls calls' : List Log.Call} {text text' : String}
    (h : after calls (some text) = after calls' (some text')) : text = text' := by
  have hlast : ∀ calls text, (after calls (some text)).log.entries.getLast?.map Log.Entry.content =
      some text := by
    intro calls text
    simp [after, log, Log.Transcript.ofCalls, List.mapIdx_append]
  have htext := hlast calls text
  rw [h, hlast] at htext
  exact (Option.some.inj htext).symm

theorem outcome_of_throwsNothing (h : ThrowsNothing source dependencies c) :
    ∃ calls, (execute source dependencies c).outcome = .after calls (some "") := by
  obtain ⟨before, script, b, s, during, e, s', hprepares, hduring, hnothing⟩ := h
  obtain ⟨after, hafter⟩ := (Platform.standard.grows_describe s' e).exists_calls
  have hcourse := Platform.Course.failed hprepares hduring rfl hafter
  refine ⟨before ++ during ++ after, ?_⟩
  have hempty : (Sandbox.describe s' e).1 = "" := (s'.describe_eq_empty_iff e).mpr hnothing
  rw [← hempty]
  exact hcourse.outcome_eq

/-- The text of a failure is empty only if the script throws something that says
nothing. -/
theorem Platform.Course.throwsNothing {calls : List Log.Call}
    (h : Platform.standard.Course source dependencies c calls (some "")) :
    ThrowsNothing source dependencies c := by
  generalize htext : some "" = failure at h
  cases h with
  | untranspiled _ => exact absurd (Option.some.inj htext).symm (Transpile.Error.message_ne_empty _)
  | unsandboxed _ _ => exact absurd (Option.some.inj htext).symm (Sandbox.Error.message_ne_empty _)
  | unconsoled _ _ _ _ => exact absurd (Option.some.inj htext).symm (Sandbox.Error.message_ne_empty _)
  | completed _ _ => cases htext
  | @failed _ text b e s s' s'' _ _ _ hprepares hduring hdescribe _ =>
    refine ⟨_, _, b, s, _, e, s', hprepares, hduring, (s'.describe_eq_empty_iff e).mp ?_⟩
    have hsaid : Sandbox.describe s' e = (text, s'') := hdescribe
    rw [hsaid]
    exact (Option.some.inj htext).symm

end

/-- Whatever is thrown in a sandbox is described, and by the empty text exactly if
it is a value that says nothing.  A run that fails has an error as the last entry
of its log, with a text, unless its script throws something that says nothing. -/
theorem failure_said (source : String) (dependencies : List (String × Bundle)) (c : Config) :
    (∀ (s : Sandbox) (e : Thrown), (s.describe e).1 = "" ↔
      Engine.SaysNothing Engine.Run.host s.machine e) ∧
    ((execute source dependencies c).outcome.isFailed = true →
      ∃ calls text, (execute source dependencies c).outcome =
          .failed (.ofCalls (calls ++ [(.error, text)])) ∧
        (text = "" ↔ ThrowsNothing source dependencies c)) := by
  refine ⟨Sandbox.describe_eq_empty_iff, ?_⟩
  intro hfailed
  obtain ⟨calls, failure, hcourse⟩ := Platform.exists_course Platform.standard source dependencies c
  have houtcome : (execute source dependencies c).outcome = .after calls failure :=
    hcourse.outcome_eq
  cases failure with
  | none =>
    rw [houtcome] at hfailed
    cases hfailed
  | some text =>
    refine ⟨calls, text, houtcome, ?_, ?_⟩
    · rintro rfl
      exact hcourse.throwsNothing
    · intro hnothing
      obtain ⟨calls', hempty⟩ := outcome_of_throwsNothing hnothing
      exact Execution.Outcome.after_inj (houtcome.symm.trans hempty)

/-! ## An object that says nothing -/

namespace Engine

open M Builtin
open Builtin.Console

variable {h : Host} {m : Machine} {r : Ref}

theorem run_ordinaryGetOwn (hkind : (m.heap.getD r default).kind = .ordinary) (k : PropKey) :
    (Object.ordinaryGetOwn r k).run h m = .ok ((m.heap.getD r default).props.get? k) m := by
  unfold Object.ordinaryGetOwn
  rw [run_bind, Heap.getObj, run_look, andThen_ok, hkind]
  rfl

theorem run_getFrom_own {ops : Unit → ObjectOps} {receiver v : Value} {n : Nat} {k : PropKey}
    {a : Attrs} (hn : n ≠ 0) (hkind : (m.heap.getD r default).kind = .ordinary)
    (hown : (m.heap.getD r default).props.get? k = some (.data v a)) :
    (Object.getFrom ops k receiver n r).run h m = .ok v m := by
  obtain ⟨n, rfl⟩ := Nat.exists_eq_succ_of_ne_zero hn
  unfold Object.getFrom
  rw [run_bind, Heap.kindOf, run_look, andThen_ok, hkind]
  dsimp only
  rw [run_bind, run_ordinaryGetOwn hkind, hown]
  rfl

theorem run_getFrom_missing {ops : Unit → ObjectOps} {receiver : Value} {n : Nat} {k : PropKey}
    (hn : n ≠ 0) (hkind : (m.heap.getD r default).kind = .ordinary)
    (hown : (m.heap.getD r default).props.get? k = none)
    (hproto : (m.heap.getD r default).proto = none) :
    (Object.getFrom ops k receiver n r).run h m = .ok .undefined m := by
  obtain ⟨n, rfl⟩ := Nat.exists_eq_succ_of_ne_zero hn
  unfold Object.getFrom
  rw [run_bind, Heap.kindOf, run_look, andThen_ok, hkind]
  dsimp only
  rw [run_bind, run_ordinaryGetOwn hkind, hown, andThen_ok]
  dsimp only
  rw [run_bind, run_look, andThen_ok, hproto]
  rfl

/-- An object without a prototype that has an empty message and is made a text by
`String`.  Called as a method, `String` gets no arguments, and the text is empty. -/
def mute : Obj :=
  ⟨none, true, .ofList [(.ofString "message", .data (.str "") .all),
    (.ofString "toString", .data (.object Intrinsic.string) .all)], .empty, .ordinary⟩

/-- A mute object at a place of a machine where `String` can be called. -/
structure Mute (m : Machine) (r : Ref) : Prop where
  object : m.heap.getD r default = mute
  string : m.Holds Intrinsic.string Texts.construct
  admits : Admits m

namespace Mute

theorem kind_eq (hmute : Mute m r) : (m.heap.getD r default).kind = .ordinary := by
  rw [hmute.object]
  rfl

theorem run_get_own (hmute : Mute m r) {k : PropKey} {v : Value} {a : Attrs}
    (hown : mute.props.get? k = some (.data v a)) : (Object.get r k).run h m = .ok v m := by
  rw [← hmute.object] at hown
  exact run_getFrom_own (by decide) hmute.kind_eq hown

theorem run_get_missing (hmute : Mute m r) {k : PropKey} (hown : mute.props.get? k = none) :
    (Object.get r k).run h m = .ok .undefined m := by
  have hproto : (m.heap.getD r default).proto = none := by rw [hmute.object]; rfl
  rw [← hmute.object] at hown
  exact run_getFrom_missing (by decide) hmute.kind_eq hown hproto

theorem run_isErrorLike (hmute : Mute m r) : (isErrorLike (.object r)).run h m = .ok true m := by
  have hmessage : (Object.getNamed r "message").run h m = .ok (.text (.plain "")) m :=
    hmute.run_get_own (a := .all) (by with_unfolding_all rfl)
  unfold isErrorLike
  dsimp only
  rw [run_bind, run_attempt, hmessage]
  rfl

theorem run_toPrimitive (hmute : Mute m r) {n : Nat} :
    (toPrimitive (.object r) .string).run (Run.hostAt (n + 1)) m = .ok (.text (.plain "")) m := by
  have hexotic : (Object.getMethod (.object r) (.symbol Sym.toPrimitive)).run (Run.hostAt (n + 1)) m =
      .ok none m := by
    unfold Object.getMethod Object.getV
    dsimp only
    rw [run_bind, hmute.run_get_missing (by with_unfolding_all rfl)]
    rfl
  have hmethod : (Object.getNamed r "toString").run (Run.hostAt (n + 1)) m =
      .ok (.object Intrinsic.string) m := hmute.run_get_own (a := .all) (by with_unfolding_all rfl)
  have hcallable : callable m (.object Intrinsic.string) = true := by
    obtain ⟨i, constructs, captures, hkind, -⟩ := hmute.string.kind_eq
    unfold callable
    dsimp only
    rw [hkind]
  have hcall : ((Run.hostAt (n + 1)).call (.object Intrinsic.string) (.object r) #[] m).1 =
      .ok (.text (.plain "")) m := run_hostCall hmute.string hmute.admits fun _ => rfl
  unfold toPrimitive ordinaryToPrimitive
  dsimp only
  rw [run_bind, hexotic, andThen_ok]
  dsimp only
  rw [if_pos (by decide)]
  unfold tryMethods
  rw [run_bind, hmethod, andThen_ok, run_bind, run_isCallable, andThen_ok, hcallable, if_pos rfl,
    run_bind, run_call, hcall]
  rfl

theorem coerces (hmute : Mute m r) {n : Nat} :
    Coerces (Run.hostAt (n + 2)) m (.object r) (some "") m := by
  have hcall : ((Run.hostAt (n + 2)).call (.object Intrinsic.string) .undefined #[.object r] m).1 =
      .ok (.text (.plain "")) m := by
    refine run_hostCall hmute.string hmute.admits fun name => ?_
    have hnamed : Mute { m with native := name } r := ⟨hmute.object, hmute.string, hmute.admits⟩
    show (toPrimitive (.object r) .string >>= primitiveText >>= fun w => return Value.text w).run _ _ = _
    rw [run_bind, run_bind, hnamed.run_toPrimitive]
    rfl
  exact .text hcall

theorem saysNothing (hmute : Mute m r) : SaysNothing Run.host m (.value (.object r)) := by
  -- two calls of `String` lie in each other
  have hnesting : Run.nesting = 9998 + 2 := rfl
  refine ⟨_, m, m, rfl, hmute.run_isErrorLike, ?_⟩
  unfold Run.host
  rw [hnesting]
  exact hmute.coerces

theorem of_push (hstring : m.Holds Intrinsic.string Texts.construct) (hadmits : Admits m) :
    Mute { m with heap := m.heap.push mute } m.heap.size := by
  refine ⟨?_, hstring.push mute, hadmits⟩
  rw [Array.getD_eq_getD_getElem?, Array.getElem?_push_size]
  rfl

end Mute

/-- A sandbox in which nothing has been made but a mute object. -/
def mutedSandbox : Sandbox :=
  let m := Realm.machine Config.standard.limits
  ⟨{ m with heap := m.heap.push mute }⟩

/-- The mute object is described by the empty text when it is thrown. -/
theorem describe_mute :
    (mutedSandbox.describe
      (.value (.object (Realm.machine Config.standard.limits).heap.size))).1 = "" := by
  have hadmits : Admits (Realm.machine Config.standard.limits) :=
    ⟨(by decide : 0 < Config.standard.limits.recursionLimit),
      (by decide : 0 < Config.standard.limits.stackSizeLimit)⟩
  rw [Sandbox.describe_eq_empty_iff]
  exact (Mute.of_push (Realm.machine_holds Realm.realm_string _) hadmits).saysNothing

end Engine

end Playpen
