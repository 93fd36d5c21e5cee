import Playpen.Proofs.Engine.Computation

/-!
# Values in the log

What the console makes of a value, told by the calls it has the engine make:
one of `JSON.stringify` for objects that are no functions, and one of `String`
where that leads to nothing.  Either may run code of the user and fail.
`Shows` says which text and machine come of it.  A value is always shown
(`exists_shows`), and several are shown from left to right, each from the machine
in which the one before it has ended (`ShowsAll`).
-/

namespace Playpen.Engine

open M

/-- Whether a value can be called. -/
def callable (m : Machine) : Value → Bool
  | .object r =>
    match (m.heap.getD r default).kind with
    | .closure _ | .native _ _ _ | .bound _ _ _ => true
    | .proxy _ _ callable _ => callable
    | _ => false
  | _ => false

theorem run_isCallable (v : Value) (h : Host) (m : Machine) :
    (Object.isCallable v).run h m = .ok (callable m v) m := by
  unfold Object.isCallable callable
  cases v with
  | object r =>
    dsimp only
    rw [run_bind, Heap.kindOf, run_look, andThen_ok]
    cases (m.heap.getD r default).kind
    all_goals rfl
  | _ => rfl

namespace Builtin.Console

variable {h : Host} {m m₁ m₂ : Machine} {v : Value}

/-! ## One value -/

/-- What `String` makes of a value: a text, or nothing where the call fails. -/
inductive Coerces (h : Host) (m : Machine) (v : Value) : Option String → Machine → Prop where
  | text {w : Text.Wide} {m' : Machine} :
      (h.call (.object Intrinsic.string) .undefined #[v] m).1 = .ok (.text w) m' →
      Coerces h m v (some w.display) m'
  | other {u : Value} {m' : Machine} :
      (h.call (.object Intrinsic.string) .undefined #[v] m).1 = .ok u m' → (∀ w, u ≠ .text w) →
      Coerces h m v none m'
  | failed {e : Thrown} {m' : Machine} :
      (h.call (.object Intrinsic.string) .undefined #[v] m).1 = .error e m' →
      Coerces h m v none m'

theorem exists_coerces (h : Host) (m : Machine) (v : Value) : ∃ text m', Coerces h m v text m' := by
  cases hcall : (h.call (.object Intrinsic.string) .undefined #[v] m).1 with
  | error e m' => exact ⟨none, m', .failed hcall⟩
  | ok u m' =>
    cases u with
    | text w => exact ⟨some w.display, m', .text hcall⟩
    | _ => exact ⟨none, m', .other hcall nofun⟩

theorem Coerces.run {text : Option String} (hcoerces : Coerces h m v text m₁) :
    (coerced v).run h m = .ok text m₁ := by
  unfold coerced
  rw [run_bind, run_attempt, run_call]
  cases hcoerces with
  | text hcall =>
    rw [hcall]
    rfl
  | failed hcall =>
    rw [hcall]
    rfl
  | @other u _ hcall hother =>
    rw [hcall]
    cases u with
    | text w => exact absurd rfl (hother w)
    | _ => rfl

theorem Coerces.unique {text other : Option String} (hcoerces : Coerces h m v text m₁)
    (hother : Coerces h m v other m₂) : text = other ∧ m₁ = m₂ := by
  have hrun := hcoerces.run
  rw [hother.run] at hrun
  cases hrun
  exact ⟨rfl, rfl⟩

/-- Whether JSON is tried for a value: it is an object and no function. -/
def IsData (m : Machine) (v : Value) : Prop := v.isObject = true ∧ callable m v = false

/-- How a value is shown: the text, and the machine in which that has ended. -/
inductive Shows (h : Host) (m : Machine) (v : Value) : String → Machine → Prop where
  /-- No object, or a function. -/
  | plain {text : Option String} {m' : Machine} : ¬ IsData m v → Coerces h m v text m' →
      Shows h m v (text.getD unprintable) m'
  | json {w : Text.Wide} {m' : Machine} : IsData m v →
      (h.call (.object Intrinsic.jsonStringify) .undefined #[v] m).1 = .ok (.text w) m' →
      Shows h m v w.display m'
  /-- JSON has nothing for the object. -/
  | nothing {m' : Machine} : IsData m v →
      (h.call (.object Intrinsic.jsonStringify) .undefined #[v] m).1 = .ok .undefined m' →
      Shows h m v "" m'
  /-- There is no JSON text, so `String` is tried, where JSON has left off. -/
  | fallback {text : Option String} {m' m'' : Machine} : IsData m v →
      ((∃ e, (h.call (.object Intrinsic.jsonStringify) .undefined #[v] m).1 = .error e m') ∨
        ∃ u, (h.call (.object Intrinsic.jsonStringify) .undefined #[v] m).1 = .ok u m' ∧
          u ≠ .undefined ∧ ∀ w, u ≠ .text w) →
      Coerces h m' v text m'' → Shows h m v (text.getD unprintable) m''

theorem exists_shows (h : Host) (m : Machine) (v : Value) : ∃ s m', Shows h m v s m' := by
  by_cases hdata : IsData m v
  · -- where JSON leaves off
    have hfallback : ∀ m', ((∃ e, (h.call (.object Intrinsic.jsonStringify) .undefined #[v] m).1 =
        .error e m') ∨ ∃ u, (h.call (.object Intrinsic.jsonStringify) .undefined #[v] m).1 =
          .ok u m' ∧ u ≠ .undefined ∧ ∀ w, u ≠ .text w) → ∃ s m'', Shows h m v s m'' := by
      intro m' hends
      obtain ⟨text, m'', hcoerces⟩ := exists_coerces h m' v
      exact ⟨_, m'', .fallback hdata hends hcoerces⟩
    cases hcall : (h.call (.object Intrinsic.jsonStringify) .undefined #[v] m).1 with
    | error e m' => exact hfallback m' (.inl ⟨e, hcall⟩)
    | ok u m' =>
      cases u with
      | undefined => exact ⟨"", m', .nothing hdata hcall⟩
      | text w => exact ⟨w.display, m', .json hdata hcall⟩
      | _ => exact hfallback m' (.inr ⟨_, hcall, nofun, nofun⟩)
  · obtain ⟨text, m', hcoerces⟩ := exists_coerces h m v
    exact ⟨_, m', .plain hdata hcoerces⟩

/-- That is how the console shows it; showing a value never fails. -/
theorem Shows.run {s : String} (hshows : Shows h m v s m₁) : (text v).run h m = .ok s m₁ := by
  have hplain : ∀ {m m₁ : Machine} {text : Option String}, Coerces h m v text m₁ →
      (do return (← coerced v).getD unprintable : M String).run h m =
        .ok (text.getD unprintable) m₁ := by
    intro m m₁ text hcoerces
    rw [run_bind, hcoerces.run]
    rfl
  have hcond : (v.isObject && !callable m v) = true ↔ IsData m v := by
    rw [Bool.and_eq_true, Bool.not_eq_true']
    rfl
  unfold text
  dsimp only
  rw [run_bind, run_isCallable, andThen_ok]
  cases hshows with
  | plain hdata hcoerces =>
    rw [if_neg ((not_congr hcond).mpr hdata)]
    exact hplain hcoerces
  | json hdata hcall =>
    rw [if_pos (hcond.mpr hdata), run_bind, run_attempt, run_call, hcall]
    rfl
  | nothing hdata hcall =>
    rw [if_pos (hcond.mpr hdata), run_bind, run_attempt, run_call, hcall]
    rfl
  | fallback hdata hends hcoerces =>
    rw [if_pos (hcond.mpr hdata), run_bind, run_attempt, run_call]
    rcases hends with ⟨e, hcall⟩ | ⟨u, hcall, hundefined, htext⟩
    · rw [hcall]
      exact hplain hcoerces
    · rw [hcall]
      cases u with
      | undefined => exact absurd rfl hundefined
      | text w => exact absurd rfl (htext w)
      | _ => exact hplain hcoerces

/-- Code of the user may have made console calls meanwhile. -/
theorem Shows.exists_made {s : String} (hshows : Shows h m v s m₁) :
    ∃ made, m₁.log.calls.toList = m.log.calls.toList ++ made := by
  have hextends := (text v).extends_run h m
  rw [hshows.run] at hextends
  obtain ⟨made, hmade⟩ := hextends.1
  exact ⟨made, hmade.symm⟩

/-! ## Several values -/

/-- How values are shown from left to right: their texts, the console calls that
their owners' code makes meanwhile, and the machine in which it ends. -/
inductive ShowsAll (h : Host) :
    Machine → List Value → List String → List Log.CallTree → Machine → Prop where
  | nil {m : Machine} : ShowsAll h m [] [] [] m
  | cons {m m₁ m₂ : Machine} {v : Value} {rest : List Value} {s : String} {pieces : List String}
      {made nested : List Log.CallTree} : Shows h m v s m₁ →
      m₁.log.calls.toList = m.log.calls.toList ++ made → ShowsAll h m₁ rest pieces nested m₂ →
      ShowsAll h m (v :: rest) (s :: pieces) (made ++ nested) m₂

theorem exists_showsAll (h : Host) (m : Machine) (vs : List Value) :
    ∃ pieces nested m', ShowsAll h m vs pieces nested m' := by
  induction vs generalizing m with
  | nil => exact ⟨[], [], m, .nil⟩
  | cons v rest ih =>
    obtain ⟨s, m₁, hshows⟩ := exists_shows h m v
    obtain ⟨made, hmade⟩ := hshows.exists_made
    obtain ⟨pieces, nested, m₂, hall⟩ := ih m₁
    exact ⟨s :: pieces, made ++ nested, m₂, .cons hshows hmade hall⟩

section

variable {vs more : List Value} {pieces others : List String} {nested further : List Log.CallTree}

theorem ShowsAll.run (hall : ShowsAll h m vs pieces nested m₁) :
    (texts vs).run h m = .ok pieces m₁ := by
  induction hall with
  | nil => rfl
  | cons hshows _ _ ih =>
    rw [texts, run_bind, hshows.run, andThen_ok, run_bind, ih]
    rfl

theorem ShowsAll.calls (hall : ShowsAll h m vs pieces nested m₁) :
    m₁.log.calls.toList = m.log.calls.toList ++ nested := by
  induction hall with
  | nil => rw [List.append_nil]
  | cons _ hmade _ ih => rw [ih, hmade, List.append_assoc]

theorem ShowsAll.append (hall : ShowsAll h m vs pieces nested m₁)
    (hmore : ShowsAll h m₁ more others further m₂) :
    ShowsAll h m (vs ++ more) (pieces ++ others) (nested ++ further) m₂ := by
  induction hall with
  | nil => exact hmore
  | cons hshows hmade _ ih =>
    rw [List.append_assoc]
    exact .cons hshows hmade (ih hmore)

/-- A value among others bears on the text of the others only by the machine that
it leaves behind.  Where two values leave the same, all but their own texts is
the same. -/
theorem ShowsAll.replace {before after : List Value} {w : Value} {s t : String}
    (hbefore : ShowsAll h m before pieces nested m₁) (hv : Shows h m₁ v s m₂)
    (hw : Shows h m₁ w t m₂) :
    ∃ others further m₃, ShowsAll h m (before ++ v :: after) (pieces ++ s :: others) further m₃ ∧
      ShowsAll h m (before ++ w :: after) (pieces ++ t :: others) further m₃ := by
  obtain ⟨others, further, m₃, hafter⟩ := exists_showsAll h m₂ after
  obtain ⟨made, hmade⟩ := hv.exists_made
  exact ⟨others, _, m₃, hbefore.append (.cons hv hmade hafter), hbefore.append (.cons hw hmade hafter)⟩

end

end Builtin.Console

end Playpen.Engine
