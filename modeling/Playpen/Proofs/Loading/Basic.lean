import Playpen.Dependency.Load
import Playpen.Proofs.Registry.Invariant

/-!
# What a load does to the registry

A load touches the registry twice: when it begins, and when it reports.  Both
are operations of the registry, and what happens between them is not seen
there.
-/

namespace Playpen.Dependency

/-- How a load with a result is reported. -/
def Verdict.ofResult : Except Error Bundle → Verdict
  | .ok b => .bound b
  | .error e => .failed e.message

theorem Verdict.bundle?_ofResult_eq_some_iff {result : Except Error Bundle} {b : Bundle} :
    (ofResult result).bundle? = some b ↔ result = .ok b := by
  cases result <;> simp [ofResult, bundle?]

namespace Load

variable {c : Config} {r r' : Registry} {d : Dependency} {l : Load}

theorem begin_ok (h : Load.begin c r d = .ok (l, r')) :
    r.begin d = .ok (l.ticket, r') ∧ l.dependency = d ∧
      l.walk = (d.moduleUrl c.cdnBase).map fun entry => Walk.start d.name entry c.maxModules := by
  unfold Load.begin at h
  cases hb : r.begin d with
  | error e =>
    rw [hb] at h
    cases h
  | ok begun =>
    obtain ⟨t, r₁⟩ := begun
    rw [hb] at h
    obtain ⟨hload, hregistry⟩ := Prod.mk.inj (Except.ok.inj h)
    rw [← hload, ← hregistry]
    refine ⟨rfl, rfl, ?_⟩
    -- a plain `rfl` would start to parse the URL
    with_reducible rfl

/-- A load begins when the registry takes its dependency, whatever address that
may have. -/
theorem begin_of_admits (c : Config) (h : Registry.Admits r.listings.keys d) :
    ∃ l r', Load.begin c r d = .ok (l, r') := by
  obtain ⟨t, r', hb⟩ := Registry.begin_of_admits h
  unfold Load.begin
  rw [hb]
  exact ⟨_, _, rfl⟩

theorem finish_registry (l : Load) (r : Registry) (result : Except Error Bundle) :
    (l.finish r result).registry = (r.conclude l.ticket (Verdict.ofResult result)).2 := by
  cases result with
  | error e => rfl
  | ok b =>
    cases hcommit : r.commit l.ticket b with
    | mk good r' =>
      cases good <;> simp [Load.finish, Verdict.ofResult, Registry.conclude, hcommit]

theorem settle_registry (l : Load) (limits : Limits) (r : Registry)
    (fetched : Except Error Bundle) :
    (l.settle limits r fetched).registry =
      (r.conclude l.ticket (Verdict.ofResult (fetched.bind (tried limits l.dependency.name)))).2 :=
  l.finish_registry r _

/-- Trying a bundle hands it on as it is, or fails. -/
theorem tried_eq (limits : Limits) (name : String) (b : Bundle) :
    tried limits name b = .ok b ∨ ∃ e, tried limits name b = .error e := by
  unfold tried
  split
  · exact Or.inl rfl
  · exact Or.inr ⟨_, rfl⟩
  · exact Or.inr ⟨_, rfl⟩

/-- What is bound in the end has been fetched, and tried. -/
theorem bind_tried_ok {limits : Limits} {name : String} {fetched : Except Error Bundle}
    {b : Bundle} (h : fetched.bind (tried limits name) = .ok b) :
    fetched = .ok b ∧ tried limits name b = .ok b := by
  cases fetched with
  | error e => cases h
  | ok b' =>
    have htried : tried limits name b' = .ok b := h
    rcases tried_eq limits name b' with hok | ⟨e, herror⟩
    · rw [hok] at htried
      cases htried
      exact ⟨rfl, hok⟩
    · rw [herror] at htried
      cases htried

end Load

end Playpen.Dependency
