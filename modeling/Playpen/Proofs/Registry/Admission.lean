import Playpen.Proofs.Registry.Ledger

/-!
# What the registry lists

A dependency is listed unless its name is empty, is seen by scripts already,
or asks for an identifier that another listed name has.  The last check passes
over the name itself, and that is all a re-add needs only because listed names
never share an identifier: whoever holds the identifier of a listed name is
that name (`WellFormed.holder_unique`).  The same fact makes the name in a
refusal the only one it could be.
-/

namespace Playpen.Dependency

/-- Why `d` is refused where `names` are listed: scripts see its name already,
or a listed name has its identifier. -/
inductive Refuses (names : List String) (d : Dependency) : Error → Prop
  | reserved (h : d.name = "console") : Refuses names d (.reservedName d.name)
  | taken {listed : String} (hlisted : listed ∈ names) (hne : listed ≠ d.name)
      (hsame : bindingIdentifier listed = bindingIdentifier d.name) :
      Refuses names d (.bindingConflict d.name listed (bindingIdentifier d.name))

variable {r : Registry} {d : Dependency} {e : Error} {names : List String}

theorem Refuses.mono {names' : List String} (h : Refuses names d e) (hsub : names ⊆ names') :
    Refuses names' d e := by
  cases h with
  | reserved hname => exact .reserved hname
  | taken hlisted hne hsame => exact .taken (hsub hlisted) hne hsame

namespace Registry

/-! ## One registry -/

theorem begin_error (h : r.begin d = .error e) (hname : d.name ≠ "") :
    Refuses r.listings.keys d e := by
  unfold Registry.begin at h
  rw [if_neg hname] at h
  split at h
  · rename_i hreserved
    cases h
    exact .reserved (by simpa [reservedNames] using hreserved)
  · split at h
    · rename_i existing hconflict
      cases h
      have hfound := List.find?_some hconflict
      rw [Bool.and_eq_true, decide_eq_true_iff, decide_eq_true_iff] at hfound
      exact .taken (List.mem_of_find?_eq_some hconflict) hfound.1 hfound.2
    · cases h

/-- A dependency without a name is refused as a spec, before its identifier is
looked at. -/
theorem begin_nameless (h : d.name = "") : r.begin d = .error (.invalidSpec d.name) := by
  unfold Registry.begin
  rw [if_pos h]

theorem begin_ok_iff : (∃ t r', r.begin d = .ok (t, r')) ↔ Admits r.listings.keys d := by
  constructor
  · rintro ⟨t, r', hbegin⟩
    exact (begin_ok hbegin).1
  · exact begin_of_admits

namespace WellFormed

variable {begun : List Dependency}

/-- A dependency is refused only under a name that is not listed. -/
theorem not_mem_of_refuses (h : r.WellFormed begun)
    (hrefuses : Refuses r.listings.keys d e) : d.name ∉ r.listings.keys := by
  intro hmem
  cases hrefuses with
  | reserved hname => exact (h.nameable hmem).2 hname
  | taken hlisted hne hsame => exact hne (List.inj_on_of_nodup_map h.identifiers hlisted hmem hsame)

/-- An identifier has one holder among the listed names. -/
theorem holder_unique (h : r.WellFormed begun) {holder listed : String}
    (hholder : holder ∈ r.listings.keys) :
    listed ∈ r.listings.keys ∧ bindingIdentifier listed = bindingIdentifier holder ↔
      listed = holder := by
  constructor
  · rintro ⟨hlisted, hsame⟩
    exact List.inj_on_of_nodup_map h.identifiers hlisted hholder hsame
  · rintro rfl
    exact ⟨hholder, rfl⟩

/-- A listed name passes the checks again: nobody else holds its identifier. -/
theorem admits_listed (h : r.WellFormed begun) (hlisted : d.name ∈ r.listings.keys) :
    Admits r.listings.keys d := by
  obtain ⟨hempty, hconsole⟩ := h.nameable hlisted
  refine ⟨hempty, hconsole, ?_⟩
  intro other hother hne hsame
  exact hne ((h.holder_unique hlisted).mp ⟨hother, hsame⟩)

/-- The name in a refusal is the one that holds the identifier. -/
theorem holder_of_conflict (h : r.WellFormed begun) {name existing identifier : String}
    (hbegin : r.begin d = .error (.bindingConflict name existing identifier)) :
    name = d.name ∧ identifier = bindingIdentifier d.name ∧
      ∀ listed, listed ∈ r.listings.keys ∧ bindingIdentifier listed = identifier ↔
        listed = existing := by
  have hname : d.name ≠ "" := by
    intro hempty
    rw [begin_nameless hempty] at hbegin
    cases hbegin
  cases begin_error hbegin hname with
  | taken hexisting hne hsame =>
    refine ⟨rfl, rfl, ?_⟩
    intro listed
    rw [← hsame]
    exact h.holder_unique hexisting

end WellFormed

end Registry

/-! ## Whole histories -/

namespace Ledger

theorem step_begin_error {s : Ledger} (h : s.registry.begin d = .error e) :
    s.step (.begin d) = s := by
  simp only [Ledger.step, h]

/-- After any history, a dependency is listed exactly if its name is not empty
and not `console` and no other listed name has its identifier.  So a listed
name can always be added again; a conflict names the one dependency that holds
the identifier; and a refusal leaves everything as it was, the counter, the
listings with their statuses, the bindings and the tickets. -/
theorem begin_admission (actions : List Action) (d : Dependency) :
    let s := run actions
    let listed := s.registry.listings.keys
    ((∃ t r, s.registry.begin d = .ok (t, r)) ↔
      d.name ≠ "" ∧ d.name ≠ "console" ∧
        ∀ other ∈ listed, other ≠ d.name → bindingIdentifier other ≠ bindingIdentifier d.name) ∧
    (d.name ∈ listed → ∃ t r, s.registry.begin d = .ok (t, r)) ∧
    (∀ name existing identifier,
      s.registry.begin d = .error (.bindingConflict name existing identifier) →
        name = d.name ∧ identifier = bindingIdentifier d.name ∧
        ∀ other, other ∈ listed ∧ bindingIdentifier other = identifier ↔ other = existing) ∧
    (∀ e, s.registry.begin d = .error e → run (actions ++ [.begin d]) = s) := by
  intro s listed
  have hwf : s.registry.WellFormed s.begun := (run_valid actions).wellFormed
  refine ⟨Registry.begin_ok_iff, ?_, ?_, ?_⟩
  · intro hlisted
    exact Registry.begin_of_admits (hwf.admits_listed hlisted)
  · intro name existing identifier hbegin
    exact hwf.holder_of_conflict hbegin
  · intro e hbegin
    rw [run_snoc]
    exact step_begin_error hbegin

end Ledger

end Playpen.Dependency
