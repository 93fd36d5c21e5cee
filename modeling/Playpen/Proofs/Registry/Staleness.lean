import Playpen.Proofs.Registry.Ledger

/-!
# When a ticket is still good

A load reports with the ticket it was given, and by then the registry may have
gone through any number of actions.  The report counts exactly if none of them
has superseded the ticket: begun a load of the same name, or removed the name.
Reports do not wear a ticket out, and what happens under other names does not
touch it.

The argument is about `current?`, one action at a time: a superseding action
leaves no current listing, because the generation it hands out is new, and any
other action leaves the ticket as good or as stale as it was.  So a stale
ticket never becomes good again.
-/

namespace Playpen.Dependency

namespace Registry

variable {r r' : Registry} {d d' : Dependency} {t t' : Ticket} {begun : List Dependency}

/-! ## One operation -/

theorem isSome_current?_iff :
    (r.current? t).isSome = true ↔
      ∃ l, r.listings.get? t.name = some l ∧ l.generation = t.generation := by
  rw [Option.isSome_iff_exists]
  constructor
  · rintro ⟨l, hl⟩
    exact ⟨l, current?_eq_some_iff.mp hl⟩
  · rintro ⟨l, hl⟩
    exact ⟨l, current?_eq_some_iff.mpr hl⟩

/-- A report counts if its ticket is good. -/
theorem conclude_counts_iff (v : Verdict) :
    (r.conclude t v).1 = true ↔ (r.current? t).isSome = true := by
  cases hcur : r.current? t with
  | none => simp [conclude_stale hcur]
  | some l => simp [conclude_current hcur]

/-- The ticket that `begin` hands out is good. -/
theorem isSome_current?_begin (hb : r.begin d = .ok (t, r')) : (r'.current? t).isSome = true := by
  obtain ⟨-, rfl, rfl⟩ := begin_ok hb
  rw [isSome_current?_iff]
  exact ⟨_, Table.get?_insert_eq_some_iff.mpr (Or.inl ⟨rfl, rfl⟩), rfl⟩

/-- Listing a name anew makes all its earlier tickets stale, and no others. -/
theorem isSome_current?_of_begin (h : r.WellFormed begun) (ht : Issued begun d t)
    (hb : r.begin d' = .ok (t', r')) :
    (r'.current? t).isSome = true ↔ (r.current? t).isSome = true ∧ d'.name ≠ t.name := by
  obtain ⟨-, -, rfl⟩ := begin_ok hb
  have hearlier : t.generation ≠ r.nextGeneration := by
    rw [h.next_eq]
    exact Nat.ne_of_lt (List.getElem?_eq_some_iff.mp ht.1).1
  rw [isSome_current?_iff, isSome_current?_iff]
  constructor
  · rintro ⟨l, hl, hgen⟩
    rcases Table.get?_insert_eq_some_iff.mp hl with ⟨-, rfl⟩ | ⟨hne, hold⟩
    · exact absurd hgen.symm hearlier
    · exact ⟨⟨l, hold, hgen⟩, Ne.symm hne⟩
  · rintro ⟨⟨l, hl, hgen⟩, hne⟩
    exact ⟨l, Table.get?_insert_eq_some_iff.mpr (Or.inr ⟨Ne.symm hne, hl⟩), hgen⟩

/-- No report changes which tickets are good. -/
theorem isSome_current?_conclude (v : Verdict) :
    ((r.conclude t' v).2.current? t).isSome = true ↔ (r.current? t).isSome = true := by
  cases hcur : r.current? t' with
  | none => rw [conclude_stale hcur]
  | some l₀ =>
    obtain ⟨hl₀, -⟩ := current?_eq_some_iff.mp hcur
    rw [conclude_current hcur, isSome_current?_iff, isSome_current?_iff]
    constructor
    · rintro ⟨l, hl, hgen⟩
      rcases Table.get?_insert_eq_some_iff.mp hl with ⟨hname, rfl⟩ | ⟨-, hold⟩
      · rw [hname]
        exact ⟨l₀, hl₀, hgen⟩
      · exact ⟨l, hold, hgen⟩
    · rintro ⟨l, hl, hgen⟩
      by_cases hname : t.name = t'.name
      · rw [hname, hl₀] at hl
        cases hl
        exact ⟨_, Table.get?_insert_eq_some_iff.mpr (Or.inl ⟨hname, rfl⟩), hgen⟩
      · exact ⟨l, Table.get?_insert_eq_some_iff.mpr (Or.inr ⟨hname, hl⟩), hgen⟩

/-- Removing a name makes its tickets stale, and no others. -/
theorem isSome_current?_remove (name : String) :
    ((r.remove name).2.current? t).isSome = true ↔
      (r.current? t).isSome = true ∧ name ≠ t.name := by
  rw [isSome_current?_iff, isSome_current?_iff]
  constructor
  · rintro ⟨l, hl, hgen⟩
    obtain ⟨hne, hold⟩ := Table.get?_erase_eq_some_iff.mp hl
    exact ⟨⟨l, hold, hgen⟩, Ne.symm hne⟩
  · rintro ⟨⟨l, hl, hgen⟩, hne⟩
    exact ⟨l, Table.get?_erase_eq_some_iff.mpr ⟨Ne.symm hne, hl⟩, hgen⟩

/-! ## What a report that counts changes -/

/-- Between `r` and `r'` the status and the binding of `name` have become those
of the verdict, and everything else is the same, the orders of names
included. -/
structure Concluded (r r' : Registry) (name : String) (v : Verdict) : Prop where
  listing : ∃ l, r.listings.get? name = some l ∧
    r'.listings.get? name = some { l with status := v.status }
  binding : r'.bundle? name = v.bundle?
  other_listings : ∀ other, other ≠ name → r'.listings.get? other = r.listings.get? other
  other_bindings : ∀ other, other ≠ name → r'.bundle? other = r.bundle? other
  listed_order : r'.listings.keys = r.listings.keys
  bound_order : r'.bundles.keys.filter (· ≠ name) = r.bundles.keys.filter (· ≠ name)
  next_eq : r'.nextGeneration = r.nextGeneration

theorem concluded_of_counts {v : Verdict} (h : (r.conclude t v).1 = true) :
    Concluded r (r.conclude t v).2 t.name v := by
  have hkeys := conclude_keys r t v
  obtain ⟨l, hcur⟩ := Option.isSome_iff_exists.mp ((conclude_counts_iff v).mp h)
  obtain ⟨hl, -⟩ := current?_eq_some_iff.mp hcur
  rw [conclude_current hcur] at hkeys ⊢
  refine
    { listing := ⟨l, hl, by simp⟩, binding := ?_, other_listings := ?_, other_bindings := ?_
      listed_order := hkeys, bound_order := Table.filter_keys_assign _ _ _, next_eq := rfl }
  · show (r.bundles.assign t.name v.bundle?).get? t.name = v.bundle?
    rw [Table.get?_assign, if_pos rfl]
  · intro other hne
    rw [Table.get?_insert, if_neg hne]
  · intro other hne
    show (r.bundles.assign t.name v.bundle?).get? other = r.bundles.get? other
    rw [Table.get?_assign, if_neg hne]

end Registry

/-! ## Whole histories -/

namespace Ledger

/-- The action, taken now, begins a load of `name` or removes `name`. -/
def Supersedes (s : Ledger) (name : String) : Action → Prop
  | .begin d => d.name = name ∧ ∃ t r, s.registry.begin d = .ok (t, r)
  | .remove name' => name' = name
  | .commit _ _ => False
  | .fail _ _ => False

/-- None of these actions, taken one after the other from now on, begins a load
of `name` or removes `name`. -/
def Spares (s : Ledger) (name : String) : List Action → Prop
  | [] => True
  | a :: rest => ¬ s.Supersedes name a ∧ (s.step a).Spares name rest

theorem run_append (before after : List Action) :
    run (before ++ after) = after.foldl step (run before) := List.foldl_append

theorem issued_step {s : Ledger} {d : Dependency} {t : Ticket}
    (ht : Registry.Issued s.begun d t) (a : Action) : Registry.Issued (s.step a).begun d t := by
  cases a with
  | begin d' =>
    simp only [Ledger.step]
    split
    · exact ht.append [d']
    · exact ht
  | commit ticket b =>
    simp only [Ledger.step, useTicket]
    split <;> exact ht
  | fail ticket message =>
    simp only [Ledger.step, useTicket]
    split <;> exact ht
  | remove name => exact ht

theorem isSome_current?_useTicket {s : Ledger} {t : Ticket} (ticket : Nat) (v : Verdict) :
    ((s.useTicket ticket (s.registry.conclude · v)).registry.current? t).isSome = true ↔
      (s.registry.current? t).isSome = true := by
  unfold Ledger.useTicket
  split
  · exact Registry.isSome_current?_conclude v
  · exact Iff.rfl

/-- One action leaves a ticket good exactly if it does not supersede it. -/
theorem isSome_current?_step {s : Ledger} (h : s.Valid) {d : Dependency} {t : Ticket}
    (ht : Registry.Issued s.begun d t) (a : Action) :
    ((s.step a).registry.current? t).isSome = true ↔
      (s.registry.current? t).isSome = true ∧ ¬ s.Supersedes t.name a := by
  cases a with
  | begin d' =>
    cases hb : s.registry.begin d' with
    | error e => simp [Ledger.step, Supersedes, hb]
    | ok result =>
      obtain ⟨t', r⟩ := result
      have hstep := Registry.isSome_current?_of_begin h.wellFormed ht hb
      simpa [Ledger.step, Supersedes, hb] using hstep
  | commit ticket b =>
    rw [Supersedes, not_false_eq_true, and_true]
    exact isSome_current?_useTicket ticket (.bound b)
  | fail ticket message =>
    rw [Supersedes, not_false_eq_true, and_true]
    exact isSome_current?_useTicket ticket (.failed message)
  | remove name => exact Registry.isSome_current?_remove name

/-- So it is good after a history exactly if it was good before, and the
history spares its name. -/
theorem isSome_current?_foldl {d : Dependency} {t : Ticket} (actions : List Action) :
    ∀ {s : Ledger}, s.Valid → Registry.Issued s.begun d t →
      (((actions.foldl step s).registry.current? t).isSome = true ↔
        (s.registry.current? t).isSome = true ∧ s.Spares t.name actions) := by
  induction actions with
  | nil =>
    intro s _ _
    simp [Spares]
  | cons a rest ih =>
    intro s hvalid ht
    rw [List.foldl_cons, ih (hvalid.step a) (issued_step ht a), isSome_current?_step hvalid ht a,
      Spares, and_assoc]

/-- However long a load takes and whatever happens meanwhile, its report
counts exactly if since its `begin` nobody has begun a load of its name or
removed it.  A report that does not count changes nothing, and one that does
changes the status and the binding of its own name only.

Generations are numbers without a bound; a counter of 64 bits agrees with them
over fewer than `2 ^ 64` successful `begin`s. -/
theorem report_counts_iff (before after : List Action) {d : Dependency} {t : Ticket}
    {r : Registry} (hbegin : (run before).registry.begin d = .ok (t, r)) (v : Verdict) :
    let s := run (before ++ .begin d :: after)
    let report := s.registry.conclude t v
    (report.1 = true ↔ (run (before ++ [.begin d])).Spares d.name after) ∧
    (report.1 = false → report.2 = s.registry) ∧
    (report.1 = true → Registry.Concluded s.registry report.2 d.name v) := by
  intro s report
  have hname : t.name = d.name := by
    obtain ⟨-, rfl, -⟩ := Registry.begin_ok hbegin
    rfl
  have hbegun : run (before ++ [.begin d]) =
      ⟨r, (run before).begun ++ [d], (run before).tickets ++ [t]⟩ := by
    rw [run_snoc]
    simp only [Ledger.step, hbegin]
  have hissued : Registry.Issued (run (before ++ [.begin d])).begun d t := by
    rw [hbegun]
    exact (run_valid before).wellFormed.issued_of_begin hbegin
  have hfresh : ((run (before ++ [.begin d])).registry.current? t).isSome = true := by
    rw [hbegun]
    exact Registry.isSome_current?_begin hbegin
  have hs : s = after.foldl step (run (before ++ [.begin d])) := by
    rw [← run_append, List.append_assoc, List.singleton_append]
  refine ⟨?_, ?_, ?_⟩
  · rw [Registry.conclude_counts_iff, hs, isSome_current?_foldl after (run_valid _) hissued,
      hname]
    exact and_iff_right hfresh
  · intro hrefused
    have hstale : s.registry.current? t = none := by
      rw [← Option.not_isSome_iff_eq_none, ← Registry.conclude_counts_iff v]
      exact Bool.not_eq_true _ ▸ hrefused
    exact congrArg Prod.snd (Registry.conclude_stale hstale v)
  · intro hcounts
    rw [← hname]
    exact Registry.concluded_of_counts hcounts

/-- A load reports twice while another name is added, and both reports count;
once its name has been removed and added again, a third one does not. -/
theorem report_counts_iff_readded :
    let left := Dependency.ofName "left" "1"
    let noted := [Action.commit 0 (.ofEntry "l"), .begin (.ofName "right" "1"), .fail 0 "late"]
    let readded := noted ++ [.remove "left", .begin left]
    ∃ t r, (run []).registry.begin left = .ok (t, r) ∧
      ((run (.begin left :: noted)).registry.commit t (.ofEntry "l")).1 = true ∧
      ((run (.begin left :: readded)).registry.commit t (.ofEntry "l")).1 = false := by
  intro left noted readded
  obtain ⟨t, r, hbegin⟩ : ∃ t r, (run []).registry.begin left = .ok (t, r) :=
    Registry.begin_of_admits (by decide +kernel)
  obtain ⟨hnoted, -, -⟩ := report_counts_iff [] noted hbegin (.bound (.ofEntry "l"))
  obtain ⟨hreadded, -, -⟩ := report_counts_iff [] readded hbegin (.bound (.ofEntry "l"))
  refine ⟨t, r, hbegin, hnoted.mpr ?_, ?_⟩
  · refine ⟨id, fun h => absurd h.1 (by decide), id, trivial⟩
  · rw [← Bool.not_eq_true]
    intro hcounts
    obtain ⟨-, -, -, hremoved, -⟩ := hreadded.mp hcounts
    exact hremoved rfl

end Ledger

end Playpen.Dependency
