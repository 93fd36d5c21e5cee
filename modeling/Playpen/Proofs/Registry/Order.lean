import Playpen.Proofs.Registry.Ledger
import Mathlib.Order.Bounds.Basic

/-!
# The order of dependencies and of bindings

A registry keeps two lists of names, those that are listed and those that are
bound.  Each has an order of its own, and the two drift apart: a name keeps its
place among the listed when its load fails, and loses it among the bound.

Both obey one law.  Some actions open a name and some close it (`Mark`); a name
stands in the list from its earliest opening since it was last closed, and
`Arranged` says that the list is in the order of these openings.  One mark
keeps a list arranged (`Arranged.snoc`), and each action does to each list what
its mark says (`listed_step`, `bound_step`); so both lists are arranged after
any history.
-/

namespace Playpen.Dependency

namespace Ledger

/-! ## Marks -/

/-- What an action does to a list of names. -/
inductive Mark where
  /-- The name is put at the end, unless it has a place. -/
  | opened (name : String)
  /-- The name is taken out. -/
  | closed (name : String)

/-- The list after a mark. -/
def place (names : List String) : Option Mark → List String
  | none => names
  | some (.opened name) => if name ∈ names then names else names ++ [name]
  | some (.closed name) => names.filter (· ≠ name)

/-- A name is listed by a `begin` that succeeds, and no longer after a
removal. -/
def listingMark (s : Ledger) : Action → Option Mark
  | .begin d =>
    match s.registry.begin d with
    | .ok _ => some (.opened d.name)
    | .error _ => none
  | .remove name => some (.closed name)
  | .commit _ _ | .fail _ _ => none

/-- What a report does to the binding of a name, if it counts. -/
def reportMark (s : Ledger) (ticket : Nat) (v : Verdict) : Option Mark :=
  match s.tickets[ticket]? with
  | none => none
  | some t =>
    if (s.registry.conclude t v).1 then
      match v with
      | .bound _ => some (.opened t.name)
      | .failed _ => some (.closed t.name)
    else none

/-- A name is bound by a `commit` that counts, and no longer after a failure
that counts, or a removal. -/
def bindingMark (s : Ledger) : Action → Option Mark
  | .commit ticket b => s.reportMark ticket (.bound b)
  | .fail ticket message => s.reportMark ticket (.failed message)
  | .remove name => some (.closed name)
  | .begin _ => none

/-- The marks of actions that are taken one after the other from now on. -/
def marksFrom (mark : Ledger → Action → Option Mark) (s : Ledger) :
    List Action → List (Option Mark)
  | [] => []
  | a :: rest => mark s a :: marksFrom mark (s.step a) rest

/-- The marks of a whole history, one for each action. -/
def marks (mark : Ledger → Action → Option Mark) (actions : List Action) : List (Option Mark) :=
  marksFrom mark start actions

theorem marksFrom_snoc (mark : Ledger → Action → Option Mark) (s : Ledger) (actions : List Action)
    (a : Action) : marksFrom mark s (actions ++ [a]) =
      marksFrom mark s actions ++ [mark (actions.foldl step s) a] := by
  induction actions generalizing s with
  | nil => rfl
  | cons b rest ih =>
    rw [List.cons_append, marksFrom, ih]
    rfl

theorem marks_snoc (mark : Ledger → Action → Option Mark) (actions : List Action) (a : Action) :
    marks mark (actions ++ [a]) = marks mark actions ++ [mark (run actions) a] :=
  marksFrom_snoc mark start actions a

/-! ## Lists in the order of their openings -/

/-- The `i`-th mark opens `name`, and none after it closes it. -/
def OpenSince (marks : List (Option Mark)) (name : String) (i : Nat) : Prop :=
  marks[i]? = some (some (.opened name)) ∧
    ∀ j, i < j → marks[j]? ≠ some (some (.closed name))

/-- The `i`-th mark is the earliest that opens `name` since one last closed
it. -/
def OpenedAt (marks : List (Option Mark)) (name : String) (i : Nat) : Prop :=
  IsLeast {i | OpenSince marks name i} i

/-- The names that are open stand in the order in which they were opened. -/
structure Arranged (marks : List (Option Mark)) (names : List String) : Prop where
  mem_iff : ∀ name, name ∈ names ↔ ∃ i, OpenedAt marks name i
  ordered : names.Pairwise fun a b => ∀ i j, OpenedAt marks a i → OpenedAt marks b j → i < j

section

variable {marks : List (Option Mark)} {names : List String} {name : String} {i : Nat}

theorem OpenSince.lt (h : OpenSince marks name i) : i < marks.length :=
  (List.getElem?_eq_some_iff.mp h.1).1

theorem OpenSince.exists_openedAt (h : OpenSince marks name i) : ∃ j, OpenedAt marks name j := by
  classical
  have hopen : ∃ i, OpenSince marks name i := ⟨i, h⟩
  exact ⟨Nat.find hopen, Nat.find_spec hopen, fun _ hj => Nat.find_min' hopen hj⟩

/-- What one more mark does to the openings of a name: a closing mark undoes
them, an opening one adds itself. -/
theorem openSince_snoc {m : Option Mark} :
    OpenSince (marks ++ [m]) name i ↔
      (OpenSince marks name i ∧ m ≠ some (.closed name)) ∨
        (i = marks.length ∧ m = some (.opened name)) := by
  constructor
  · rintro ⟨hopen, hstays⟩
    have hi := (List.getElem?_eq_some_iff.mp hopen).1
    rw [List.length_append, List.length_singleton] at hi
    rcases Nat.lt_or_eq_of_le (Nat.le_of_lt_succ hi) with hlt | rfl
    · left
      rw [List.getElem?_append_left hlt] at hopen
      refine ⟨⟨hopen, ?_⟩, ?_⟩
      · intro j hj hclosed
        refine hstays j hj ?_
        rw [List.getElem?_append_left (List.getElem?_eq_some_iff.mp hclosed).1]
        exact hclosed
      · rintro rfl
        exact hstays marks.length hlt List.getElem?_concat_length
    · right
      rw [List.getElem?_concat_length] at hopen
      exact ⟨rfl, Option.some.inj hopen⟩
  · rintro (⟨hold, hm⟩ | ⟨rfl, rfl⟩)
    · refine ⟨?_, ?_⟩
      · rw [List.getElem?_append_left hold.lt]
        exact hold.1
      · intro j hj hclosed
        have hjlt := (List.getElem?_eq_some_iff.mp hclosed).1
        rw [List.length_append, List.length_singleton] at hjlt
        rcases Nat.lt_or_eq_of_le (Nat.le_of_lt_succ hjlt) with hlt | rfl
        · rw [List.getElem?_append_left hlt] at hclosed
          exact hold.2 j hj hclosed
        · rw [List.getElem?_concat_length] at hclosed
          exact hm (Option.some.inj hclosed)
    · refine ⟨List.getElem?_concat_length, ?_⟩
      intro j hj hclosed
      have hjlt := (List.getElem?_eq_some_iff.mp hclosed).1
      rw [List.length_append, List.length_singleton] at hjlt
      omega

/-- A name that is open stays open where it is, unless it is closed. -/
theorem openedAt_snoc_of_openedAt {m : Option Mark} (h : OpenedAt marks name i) {j : Nat} :
    OpenedAt (marks ++ [m]) name j ↔ j = i ∧ m ≠ some (.closed name) := by
  obtain ⟨hopen, hleast⟩ := h
  have hnew : m ≠ some (.closed name) → OpenedAt (marks ++ [m]) name i := by
    intro hm
    refine ⟨openSince_snoc.mpr (Or.inl ⟨hopen, hm⟩), ?_⟩
    intro k hk
    rcases openSince_snoc.mp hk with ⟨hold, -⟩ | ⟨rfl, -⟩
    · exact hleast hold
    · exact Nat.le_of_lt (OpenSince.lt hopen)
  constructor
  · intro hj
    have hm : m ≠ some (.closed name) := by
      rcases openSince_snoc.mp hj.1 with ⟨-, hm⟩ | ⟨-, rfl⟩
      · exact hm
      · exact fun h => by cases h
    exact ⟨hj.unique (hnew hm), hm⟩
  · rintro ⟨rfl, hm⟩
    exact hnew hm

/-- A name that is not open is opened by its mark only. -/
theorem openedAt_snoc_of_closed {m : Option Mark} (h : ¬ ∃ i, OpenedAt marks name i) {j : Nat} :
    OpenedAt (marks ++ [m]) name j ↔ j = marks.length ∧ m = some (.opened name) := by
  have honly : ∀ k, OpenSince (marks ++ [m]) name k ↔ k = marks.length ∧ m = some (.opened name) := by
    intro k
    rw [openSince_snoc]
    constructor
    · rintro (⟨hold, -⟩ | hnew)
      · exact absurd hold.exists_openedAt h
      · exact hnew
    · exact Or.inr
  constructor
  · intro hj
    exact (honly j).mp hj.1
  · intro hj
    refine ⟨(honly j).mpr hj, ?_⟩
    intro k hk
    rw [hj.1, ((honly k).mp hk).1]

/-- One mark keeps a list arranged. -/
theorem Arranged.snoc (h : Arranged marks names) (m : Option Mark) :
    Arranged (marks ++ [m]) (place names m) := by
  -- openings of names that were there already are where they were
  have hold : ∀ {a : String} {i : Nat}, a ∈ names → OpenedAt (marks ++ [m]) a i →
      OpenedAt marks a i := by
    intro a i ha hi
    obtain ⟨k, hk⟩ := (h.mem_iff a).mp ha
    rw [((openedAt_snoc_of_openedAt hk).mp hi).1]
    exact hk
  have hordered : names.Pairwise fun a b =>
      ∀ i j, OpenedAt (marks ++ [m]) a i → OpenedAt (marks ++ [m]) b j → i < j :=
    h.ordered.imp_of_mem fun ha hb hab i j hi hj => hab i j (hold ha hi) (hold hb hj)
  have hmem : ∀ a, (∃ i, OpenedAt (marks ++ [m]) a i) ↔
      (a ∈ names ∧ m ≠ some (.closed a)) ∨ (a ∉ names ∧ m = some (.opened a)) := by
    intro a
    by_cases ha : a ∈ names
    · obtain ⟨k, hk⟩ := (h.mem_iff a).mp ha
      simp [openedAt_snoc_of_openedAt hk, ha]
    · simp [openedAt_snoc_of_closed (mt (h.mem_iff a).mpr ha), ha]
  cases m with
  | none => exact ⟨fun a => by rw [hmem]; simp [place], hordered⟩
  | some mark =>
    cases mark with
    | closed name =>
      refine ⟨fun a => ?_, hordered.filter _⟩
      rw [hmem]
      have hne : some (Mark.closed name) ≠ some (.closed a) ↔ a ≠ name := by
        rw [ne_eq, Option.some.injEq, Mark.closed.injEq, eq_comm]
      simp [place, hne]
    | opened name =>
      by_cases hname : name ∈ names
      · rw [place, if_pos hname]
        refine ⟨fun a => ?_, hordered⟩
        rw [hmem]
        grind
      · rw [place, if_neg hname]
        refine ⟨fun a => ?_, ?_⟩
        · rw [hmem]
          grind
        · refine List.pairwise_append.mpr ⟨hordered, List.pairwise_singleton _ _, ?_⟩
          intro a ha b hb i j hi hj
          rw [List.mem_singleton] at hb
          subst hb
          have hlast := (openedAt_snoc_of_closed (mt (h.mem_iff b).mpr hname)).mp hj
          rw [hlast.1]
          exact (hold ha hi).1.lt

theorem Arranged.nil : Arranged [] [] where
  mem_iff name := by
    constructor
    · intro h
      cases h
    · rintro ⟨i, hi⟩
      exact absurd hi.1.lt (Nat.not_lt_zero i)
  ordered := List.Pairwise.nil

end

/-! ## What an action does to the two lists -/

theorem listed_step (s : Ledger) (a : Action) :
    (s.step a).registry.listings.keys = place s.registry.listings.keys (s.listingMark a) := by
  have hreport : ∀ ticket v, (s.useTicket ticket (s.registry.conclude · v)).registry.listings.keys
      = s.registry.listings.keys := by
    intro ticket v
    unfold useTicket
    split
    · exact Registry.conclude_keys _ _ v
    · rfl
  cases a with
  | begin d =>
    cases hbegin : s.registry.begin d with
    | error e => simp only [Ledger.step, listingMark, hbegin, place]
    | ok result =>
      obtain ⟨t, r⟩ := result
      obtain ⟨-, -, rfl⟩ := Registry.begin_ok hbegin
      simp only [Ledger.step, listingMark, hbegin]
      exact Table.keys_insert _ _ _
  | commit ticket b => exact hreport ticket (.bound b)
  | fail ticket message => exact hreport ticket (.failed message)
  | remove name => exact Table.keys_erase _ name

theorem bound_step (s : Ledger) (a : Action) :
    (s.step a).registry.bundles.keys = place s.registry.bundles.keys (s.bindingMark a) := by
  have hreport : ∀ ticket v, (s.useTicket ticket (s.registry.conclude · v)).registry.bundles.keys
      = place s.registry.bundles.keys (s.reportMark ticket v) := by
    intro ticket v
    unfold useTicket reportMark
    cases s.tickets[ticket]? with
    | none => rfl
    | some t =>
      cases hcur : s.registry.current? t with
      | none => simp only [Registry.conclude_stale hcur, Bool.false_eq_true, if_false, place]
      | some l =>
        simp only [Registry.conclude_current hcur, if_true]
        cases v with
        | bound b => exact Table.keys_insert _ _ b
        | failed message => exact Table.keys_erase _ _
  cases a with
  | begin d =>
    cases hbegin : s.registry.begin d with
    | error e => simp only [Ledger.step, bindingMark, hbegin, place]
    | ok result =>
      obtain ⟨t, r⟩ := result
      obtain ⟨-, -, rfl⟩ := Registry.begin_ok hbegin
      simp only [Ledger.step, bindingMark, hbegin, place]
  | commit ticket b => exact hreport ticket (.bound b)
  | fail ticket message => exact hreport ticket (.failed message)
  | remove name => exact Table.keys_erase _ name

/-! ## The other names -/

/-- The name that an action is about; a ticket that was not handed out is about
none. -/
def subject (s : Ledger) : Action → Option String
  | .begin d => some d.name
  | .commit ticket _ | .fail ticket _ => s.tickets[ticket]?.map (·.name)
  | .remove name => some name

/-- One registry has the listings and the bindings of another, in the same
order, except those of `name`. -/
def Keeps (name : Option String) (r r' : Registry) : Prop :=
  r'.listings.entries.filter (some ·.1 ≠ name) = r.listings.entries.filter (some ·.1 ≠ name) ∧
    r'.bundles.entries.filter (some ·.1 ≠ name) = r.bundles.entries.filter (some ·.1 ≠ name)

theorem Keeps.refl (name : Option String) (r : Registry) : Keeps name r r := ⟨rfl, rfl⟩

theorem Keeps.of_assign {name : String} {r r' : Registry} {l : Option Listing} {b : Option Bundle}
    (hlistings : r'.listings = r.listings.assign name l ∨ r'.listings = r.listings)
    (hbundles : r'.bundles = r.bundles.assign name b ∨ r'.bundles = r.bundles) :
    Keeps (some name) r r' := by
  simp only [Keeps, ne_eq, Option.some.injEq]
  constructor
  · rcases hlistings with h | h <;> rw [h]
    exact Table.filter_entries_assign _ name l
  · rcases hbundles with h | h <;> rw [h]
    exact Table.filter_entries_assign _ name b

theorem keeps_step (s : Ledger) (a : Action) :
    Keeps (s.subject a) s.registry (s.step a).registry := by
  have hreport : ∀ ticket v, Keeps (s.tickets[ticket]?.map (·.name)) s.registry
      (s.useTicket ticket (s.registry.conclude · v)).registry := by
    intro ticket v
    unfold useTicket
    cases s.tickets[ticket]? with
    | none => exact Keeps.refl _ _
    | some t =>
      cases hcur : s.registry.current? t with
      | none =>
        simp only [Registry.conclude_stale hcur]
        exact Keeps.refl _ _
      | some l =>
        simp only [Registry.conclude_current hcur]
        exact Keeps.of_assign (l := some { l with status := v.status }) (b := v.bundle?)
          (Or.inl rfl) (Or.inl rfl)
  cases a with
  | begin d =>
    cases hbegin : s.registry.begin d with
    | error e =>
      simp only [Ledger.step, hbegin]
      exact Keeps.refl _ _
    | ok result =>
      obtain ⟨t, r⟩ := result
      obtain ⟨-, -, rfl⟩ := Registry.begin_ok hbegin
      simp only [Ledger.step, hbegin]
      exact Keeps.of_assign (l := some _) (b := none) (Or.inl rfl) (Or.inr rfl)
  | commit ticket b => exact hreport ticket (.bound b)
  | fail ticket message => exact hreport ticket (.failed message)
  | remove name =>
    exact Keeps.of_assign (l := none) (b := none) (Or.inl rfl) (Or.inl rfl)

end Ledger

/-! ## Whole histories -/

/-- Listings are filed under the names of their dependencies. -/
theorem Registry.WellFormed.names_eq {r : Registry} {begun : List Dependency}
    (h : r.WellFormed begun) : r.dependencies.map (·.dependency.name) = r.listings.keys := by
  unfold Registry.dependencies Table.values Table.keys
  rw [List.map_map]
  apply List.map_congr_left
  intro e he
  exact h.named (Table.mem_entries_iff.mp he)

theorem Registry.WellFormed.filter_dependencies {r : Registry} {begun : List Dependency}
    (h : r.WellFormed begun) (p : String → Bool) :
    r.dependencies.filter (p ·.dependency.name) =
      (r.listings.entries.filter (p ·.1)).map Prod.snd := by
  unfold Registry.dependencies Table.values
  rw [List.filter_map]
  congr 1
  apply List.filter_congr
  intro e he
  exact congrArg p (h.named (Table.mem_entries_iff.mp he))

namespace Ledger

theorem listed_arranged (actions : List Action) :
    Arranged (marks listingMark actions) (run actions).registry.listings.keys := by
  induction actions using List.reverseRecOn with
  | nil => exact Arranged.nil
  | append_singleton actions a ih =>
    rw [marks_snoc, run_snoc, listed_step]
    exact ih.snoc _

theorem bound_arranged (actions : List Action) :
    Arranged (marks bindingMark actions) (run actions).registry.bundles.keys := by
  induction actions using List.reverseRecOn with
  | nil => exact Arranged.nil
  | append_singleton actions a ih =>
    rw [marks_snoc, run_snoc, bound_step]
    exact ih.snoc _

/-- Dependencies are listed in the order in which they were first added since
they were last removed, and bindings in the order in which they were first made
since they were last undone.  An action on one name leaves the listings of all
others, with their generations and statuses, and their bindings as they are and
in their order. -/
theorem run_arranged (actions : List Action) :
    let s := run actions
    Arranged (marks listingMark actions) (s.registry.dependencies.map (·.dependency.name)) ∧
    Arranged (marks bindingMark actions) (s.registry.snapshot.map Prod.fst) ∧
    ∀ a,
      (s.step a).registry.dependencies.filter (some ·.dependency.name ≠ s.subject a) =
        s.registry.dependencies.filter (some ·.dependency.name ≠ s.subject a) ∧
      (s.step a).registry.snapshot.filter (some ·.1 ≠ s.subject a) =
        s.registry.snapshot.filter (some ·.1 ≠ s.subject a) := by
  intro s
  have hvalid : s.Valid := run_valid actions
  refine ⟨?_, bound_arranged actions, ?_⟩
  · rw [hvalid.wellFormed.names_eq]
    exact listed_arranged actions
  · intro a
    obtain ⟨hlistings, hbundles⟩ := keeps_step s a
    refine ⟨?_, hbundles⟩
    rw [hvalid.wellFormed.filter_dependencies (fun name => decide (some name ≠ s.subject a)),
      (hvalid.step a).wellFormed.filter_dependencies (fun name => decide (some name ≠ s.subject a)),
      hlistings]

/-- A name that failed and was loaded again is still listed first, and bound
last. -/
example :
    let a := Dependency.ofName "a" "1"
    let b := Dependency.ofName "b" "1"
    let s := run [.begin a, .begin b, .commit 0 (.ofEntry "a"), .commit 1 (.ofEntry "b"),
      .begin a, .fail 2 "late", .begin a, .commit 3 (.ofEntry "a")]
    s.registry.listings.keys = ["a", "b"] ∧ s.registry.bundles.keys = ["b", "a"] := by
  decide +kernel

end Ledger

end Playpen.Dependency
