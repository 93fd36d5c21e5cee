import Playpen.Proofs.Registry.Ledger
import Playpen.Proofs.Runs.Outcome

/-!
# What a script sees

A run binds the console first and then the dependencies of its snapshot, each
under the identifier made from its name.  A dependency that does not link is
left out and the others close up, so the places of names and values must not
come apart, and no identifier may occur twice: a script could not reach the
first of two.

`Links` tells how linking went, dependency by dependency, without saying what
becomes of it; `bind_links` says that the bindings are exactly the successes.
Distinctness comes from the registry: whatever has happened to it, names that
are bound are listed, and listed names have identifiers of their own.
-/

namespace Playpen

open Engine (Value)
open Dependency (Bundle Ledger Registry bindingIdentifier)

/-! ## Snapshots of reachable registries -/

namespace Dependency

/-- Only what is listed is bound. -/
theorem Registry.WellFormed.bound_listed {r : Registry} {begun : List Dependency}
    (h : r.WellFormed begun) {name : String} (hbound : name ∈ r.bundles.keys) :
    name ∈ r.listings.keys := by
  by_contra hunlisted
  have hnone : r.listings.get? name = none := Table.get?_eq_none_iff.mpr hunlisted
  exact Table.get?_eq_none_iff.mp (h.unlisted_unbound hnone) hbound

/-- The identifiers of what is bound are distinct: the names are some of those
that are listed, in another order. -/
theorem Registry.WellFormed.identifiers_snapshot {r : Registry} {begun : List Dependency}
    (h : r.WellFormed begun) :
    (r.snapshot.map fun d => bindingIdentifier d.1).Nodup := by
  have hinj : ∀ name ∈ r.bundles.keys, ∀ name' ∈ r.bundles.keys,
      bindingIdentifier name = bindingIdentifier name' → name = name' := by
    intro name hname name' hname' heq
    exact List.inj_on_of_nodup_map h.identifiers (h.bound_listed hname) (h.bound_listed hname') heq
  have hkeys : r.snapshot.map (fun d => bindingIdentifier d.1) =
      r.bundles.keys.map bindingIdentifier := by
    unfold Registry.snapshot Table.keys
    rw [List.map_map]
    rfl
  rw [hkeys]
  exact List.Nodup.map_on hinj (Table.keys_nodup _)

end Dependency

/-! ## Linking one after the other -/

namespace Platform

variable {p : Platform}

/-- Linking the dependencies in their order, from one state to the other, has
these results. -/
inductive Links (p : Platform) :
    p.State → List (String × Bundle) → List (Except Sandbox.Error Value) → p.State → Prop where
  | nil {s : p.State} : Links p s [] [] s
  | cons {s s₁ s₂ : p.State} {name : String} {bundle : Bundle} {rest : List (String × Bundle)}
      {r : Except Sandbox.Error Value} {results : List (Except Sandbox.Error Value)} :
      p.link s name bundle = (r, s₁) → Links p s₁ rest results s₂ →
      Links p s ((name, bundle) :: rest) (r :: results) s₂

/-- The dependencies that linked, each with its value. -/
def linked (dependencies : List (String × Bundle)) (results : List (Except Sandbox.Error Value)) :
    List (String × Value) :=
  (dependencies.zip results).filterMap fun (d, r) => r.toOption.map (d.1, ·)

theorem linked_ok (name : String) (bundle : Bundle) (rest : List (String × Bundle)) (v : Value)
    (results : List (Except Sandbox.Error Value)) :
    linked ((name, bundle) :: rest) (.ok v :: results) = (name, v) :: linked rest results := rfl

theorem linked_error (name : String) (bundle : Bundle) (rest : List (String × Bundle))
    (e : Sandbox.Error) (results : List (Except Sandbox.Error Value)) :
    linked ((name, bundle) :: rest) (.error e :: results) = linked rest results := rfl

/-- Those that linked are some of the dependencies, in the same order. -/
theorem linked_names_sublist :
    ∀ (dependencies : List (String × Bundle)) (results : List (Except Sandbox.Error Value)),
      ((linked dependencies results).map Prod.fst).Sublist (dependencies.map Prod.fst)
  | [], _ => List.nil_sublist _
  | _ :: _, [] => List.nil_sublist _
  | (name, bundle) :: rest, r :: results => by
      cases r with
      | ok v => exact (linked_names_sublist rest results).cons_cons name
      | error e => exact (linked_names_sublist rest results).cons name

/-- The warnings about those that did not link. -/
def skipped (results : List (Except Sandbox.Error Value)) : List String :=
  results.filterMap fun
    | .ok _ => none
    | .error e => some s!"{e.message} (skipped)"

/-- Whatever links is bound under its identifier, behind what is bound already,
and whatever does not is passed over with a warning. -/
theorem bind_links (s : p.State) (b : Bindings) (dependencies : List (String × Bundle)) :
    ∃ results s', p.Links s dependencies results s' ∧
      p.bind s b dependencies = (⟨b.entries ++
        (linked dependencies results).map fun d => (bindingIdentifier d.1, d.2)⟩, s',
        skipped results) := by
  induction dependencies generalizing s b with
  | nil => exact ⟨[], s, .nil, by simp [bind, linked, skipped]⟩
  | cons dependency rest ih =>
    obtain ⟨name, bundle⟩ := dependency
    cases hlink : p.link s name bundle with
    | mk r s₁ =>
      cases r with
      | ok v =>
        obtain ⟨results, s', hlinks, hbind⟩ := ih s₁ (b.push (bindingIdentifier name) v)
        refine ⟨.ok v :: results, s', .cons hlink hlinks, ?_⟩
        simp only [bind, hlink]
        rw [hbind, linked_ok]
        simp [Bindings.push, skipped]
      | error e =>
        obtain ⟨results, s', hlinks, hbind⟩ := ih s₁ b
        refine ⟨.error e :: results, s', .cons hlink hlinks, ?_⟩
        simp only [bind, hlink]
        rw [hbind, linked_error]
        simp [skipped]

/-- Where success depends on the name alone, those that link are chosen by
it. -/
theorem Links.linked_names {chosen : String → Bool}
    (hchosen : ∀ s name bundle, (p.link s name bundle).1.isOk = chosen name)
    {s s' : p.State} {dependencies : List (String × Bundle)}
    {results : List (Except Sandbox.Error Value)} (h : p.Links s dependencies results s') :
    (linked dependencies results).map Prod.fst = (dependencies.map Prod.fst).filter chosen := by
  induction h with
  | nil => rfl
  | @cons s₀ s₁ s₂ name bundle rest r results hlink _ ih =>
    have hr := hchosen s₀ name bundle
    rw [hlink] at hr
    rw [List.map_cons, List.filter_cons]
    cases r with
    | ok v =>
      have hname : chosen name = true := hr.symm
      rw [linked_ok, hname, if_pos rfl, List.map_cons, ih]
    | error e =>
      have hname : chosen name = false := hr.symm
      rw [linked_error, hname, if_neg Bool.false_ne_true, ih]

/-! ## The bindings of a run -/

/-- A run ends as the evaluation of its script with its bindings does. -/
theorem finish_of_evaluates {s s' : p.State} {script : String} {b : Bindings}
    {calls : List Log.Call} {r : Except Engine.Thrown Value}
    (h : p.Evaluates s script b calls r s') :
    (∀ v, r = .ok v → p.finish s script b = .completed (p.log s').snapshot) ∧
    ∀ e, r = .error e → p.finish s script b =
      Execution.failure (p.log (p.describe s' e).2) (p.describe s' e).1 := by
  constructor
  · rintro v rfl
    rw [finish, h.eq.1]
  · rintro e rfl
    rw [finish, h.eq.1]

/-- A run with the dependencies of a registry, whatever has happened to that
before and whichever of them link, evaluates its script with the console first
and then each dependency that linked, in their order, under its identifier and
with its own value: the function is made with these names, called with these
values, and the run ends as that does.  No two of the names are alike, and none
but the first is the console's. -/
theorem bindings_of_snapshot (p : Platform) (actions : List Ledger.Action) (source : String)
    (c : Config) {script : String} {s₀ s₁ : p.State} {console : Value}
    (htranspile : p.transpile c.dialect source = .ok script)
    (hsandbox : p.sandbox c.limits = .ok s₀) (hconsole : p.console s₀ = (.ok console, s₁)) :
    let snapshot := (Ledger.run actions).registry.snapshot
    ∃ results s₂ b, p.Links s₁ snapshot results s₂ ∧
      (p.execute source snapshot c).outcome = p.finish s₂ script b ∧
      (∃ calls r s₃, p.Evaluates s₂ script b calls r s₃ ∧
        (∀ v, r = .ok v → (p.execute source snapshot c).outcome =
          .completed (p.log s₃).snapshot) ∧
        ∀ e, r = .error e → (p.execute source snapshot c).outcome =
          Execution.failure (p.log (p.describe s₃ e).2) (p.describe s₃ e).1) ∧
      b.entries = ("console", console) ::
        (linked snapshot results).map (fun d => (bindingIdentifier d.1, d.2)) ∧
      b.names.length = b.values.length ∧ b.names.Nodup ∧
      ∀ name ∈ (Ledger.run actions).registry.bundles.keys, bindingIdentifier name ≠ "console" := by
  intro snapshot
  obtain ⟨results, s₂, hlinks, hbind⟩ :=
    bind_links s₁ (Bindings.empty.push "console" console) snapshot
  have hdistinct : ((linked snapshot results).map fun d => bindingIdentifier d.1).Nodup := by
    have hsub := (linked_names_sublist snapshot results).map bindingIdentifier
    rw [List.map_map, List.map_map] at hsub
    exact hsub.nodup (Ledger.run_valid actions).wellFormed.identifiers_snapshot
  let b : Bindings := ⟨("console", console) ::
    (linked snapshot results).map fun d => (bindingIdentifier d.1, d.2)⟩
  have hfinish : (p.execute source snapshot c).outcome = p.finish s₂ script b := by
    simp only [execute, htranspile, hsandbox, hconsole]
    rw [hbind]
    rfl
  obtain ⟨calls, r, s₃, hevaluates⟩ := exists_evaluates s₂ script b
  refine ⟨results, s₂, b, hlinks, hfinish, ⟨calls, r, s₃, hevaluates, ?_⟩, rfl,
    by simp [b, Bindings.names, Bindings.values], ?_,
    fun name _ => Dependency.bindingIdentifier_ne_console name⟩
  · rw [hfinish]
    exact finish_of_evaluates hevaluates
  · show (List.map Prod.fst _).Nodup
    rw [List.map_cons, List.map_map, List.nodup_cons]
    refine ⟨?_, hdistinct⟩
    intro hmem
    obtain ⟨d, -, hd⟩ := List.mem_map.mp hmem
    exact Dependency.bindingIdentifier_ne_console d.1 hd

/-- A platform that runs nothing, and links the dependencies with chosen
names. -/
def idle (chosen : String → Bool) : Platform where
  State := Unit
  log _ := .empty
  transpile _ source := .ok source
  sandbox _ := .ok ()
  console s := (.ok .undefined, s)
  link s name _ := (if chosen name then .ok (.str name) else .error (.link name ""), s)
  construct s _ := (.ok .undefined, s)
  call s f _ := (.ok f, s)
  drain s := (.ok (), s)
  describe s _ := ("", s)
  log_sandbox _ _ _ := rfl
  grows_console _ := List.prefix_rfl
  grows_link _ _ _ := List.prefix_rfl
  grows_construct _ _ := List.prefix_rfl
  grows_call _ _ _ := List.prefix_rfl
  grows_drain _ := List.prefix_rfl
  grows_describe _ _ := List.prefix_rfl

theorem isOk_link_idle (chosen : String → Bool) (s : Unit) (name : String) (bundle : Bundle) :
    ((idle chosen).link s name bundle).1.isOk = chosen name := by
  cases h : chosen name <;> simp [idle, h, Except.isOk, Except.toBool]

/-- Four dependencies are bound in another order than they were listed in, one
of them is removed again, and one does not link. -/
theorem bindings_of_snapshot_skipping :
    let actions : List Ledger.Action := [.begin (.ofName "@x/date-fns" "3"),
      .begin (.ofName "3d" "1"), .begin (.ofName "default" "1"), .begin (.ofName "gone" "1"),
      .commit 3 (.ofEntry "g"), .commit 2 (.ofEntry "n"), .commit 1 (.ofEntry "d"),
      .commit 0 (.ofEntry "f"), .remove "gone"]
    let p := idle (· ≠ "3d")
    let snapshot := (Ledger.run actions).registry.snapshot
    snapshot.map Prod.fst = ["default", "3d", "@x/date-fns"] ∧
    ∃ s b, (p.execute "" snapshot .standard).outcome = p.finish s "" b ∧
      b.names = ["console", "_default", "dateFns"] ∧ b.names.Nodup := by
  intro actions p snapshot
  have hsnapshot : snapshot.map Prod.fst = ["default", "3d", "@x/date-fns"] := by decide +kernel
  obtain ⟨results, s, b, hlinks, houtcome, -, hentries, -, hnodup, -⟩ :=
    bindings_of_snapshot p actions "" .standard rfl rfl rfl
  have hlinked := hlinks.linked_names (isOk_link_idle _)
  have hnames : b.names =
      "console" :: ((linked snapshot results).map Prod.fst).map bindingIdentifier := by
    rw [Bindings.names, hentries, List.map_cons, List.map_map, List.map_map]
    rfl
  refine ⟨hsnapshot, s, b, houtcome, ?_, hnodup⟩
  rw [hnames, hlinked, hsnapshot]
  decide +kernel

end Platform

end Playpen
