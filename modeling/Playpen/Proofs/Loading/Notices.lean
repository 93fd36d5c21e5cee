import Playpen.Command
import Playpen.Proofs.Loading.Opening
import Playpen.Proofs.Loading.Printed

/-!
# What is said about dependencies

What is wrong with a dependency is said in two places: a load that was refused
says so itself, and a load that failed leaves the reason with its listing.  A
load whose error neither place speaks for would be dropped in silence.
`openSession_reports` says that there is none: it reads the invariant of
`Underway` at the moment when all tasks have ended.
-/

namespace Playpen

open Dependency (Registry Load Refuses parseSpec admitted)
open Display (OneLine lines)
open Dependency.Registry (Admits)

/-! ## What is said -/

namespace Command

open Playground (Task Underway namesBefore)

/-- Whether all loads of a session have ended. -/
def Opened.isDone (s : Opened) : Bool :=
  s.playground.tasks.all fun
    | .ended _ => true
    | _ => false

/-- The networks of a session fail as clients do. -/
def Pace.FailsFetching (pace : Pace) : Prop :=
  (∀ i, Dependency.FailsFetching (pace.first i)) ∧
    ∀ turn ∈ pace.later, Dependency.FailsFetching turn.2

/-- Each spec can be read, as the dependency at its place. -/
def Reads (specs : List String) (ds : List Dependency) : Prop :=
  List.Forall₂ (fun spec d => parseSpec spec = .ok d) specs ds

variable {ds : List Dependency} {names : List String} {d : Dependency}

/-- The error of a load that was refused. -/
def refusal? : Task → Option Dependency.Error
  | .ended (.error (.bindingConflict name existing identifier)) =>
    some (.bindingConflict name existing identifier)
  | .ended (.error (.reservedName name)) => some (.reservedName name)
  | _ => none

/-- A load that was refused says so on a line of its own, and no other says
anything. -/
theorem rejection_eq (task : Task) : rejection task =
    (((refusal? task).map fun e => Terminal.warned e.message).map Terminal.line).getD "" := by
  cases task with
  | queued d => rfl
  | loading l => rfl
  | ended result =>
    cases result with
    | ok outcome => rfl
    | error e => cases e <;> rfl

/-- A load that has ended was refused, or has not been heard of. -/
theorem refusal?_of_answers {result : Except Dependency.Error Load.Outcome}
    (h : (Task.ended result).Answers names d) :
    (Admits names d ∧ refusal? (.ended result) = none) ∨
      ∃ e, Refuses names d e ∧ refusal? (.ended result) = some e := by
  cases result with
  | ok outcome => exact Or.inl ⟨h, rfl⟩
  | error e =>
    rcases h with ⟨hadmits, hquiet⟩ | hrefuses
    · refine Or.inl ⟨hadmits, ?_⟩
      cases e with
      | reservedName name => exact absurd trivial hquiet
      | bindingConflict name existing identifier => exact absurd trivial hquiet
      | _ => rfl
    · refine Or.inr ⟨e, hrefuses, ?_⟩
      cases hrefuses <;> rfl

/-- All that is printed about the dependencies of a session: what was written
while it was opened, and the warnings about what is listed and not bound. -/
def Opened.said (s : Opened) : String :=
  s.notices ++ Terminal.unboundAll s.playground.registry.dependencies

/-- It is what a command has written by the time that its source is set. -/
theorem notices_prepareRun {h : Host} {file : String} {specs : List String}
    {config : Option String} {s' : Opened} (hprepare : prepareRun h file specs config = .ok s') :
    ∃ s, prepare h file specs config = .ok s ∧ s'.notices = s.said := by
  unfold prepareRun at hprepare
  obtain ⟨source, -, hrest⟩ := bind_eq_ok.mp hprepare
  obtain ⟨s, hs, hset⟩ := bind_eq_ok.mp hrest
  cases hset
  exact ⟨s, hs, rfl⟩

/-- What a session says about its specs once all loads have ended. -/
structure Reported (ds : List Dependency) (s : Opened) : Prop where
  /-- A spec was refused, or its name is listed; and what is printed are, behind
  a line about the loads, one line for each refusal, in the order of the specs,
  and the warnings about listings that are not bound, in their order. -/
  lines_eq : ∃ refusals : List (Option Dependency.Error), refusals.length = ds.length ∧
    (∀ i d, ds[i]? = some d →
      (Admits (namesBefore ds i) d ∧ s.playground.registry.isListed d.name = true ∧
        refusals[i]? = some none) ∨
      (∃ e, Refuses (namesBefore ds i) d e ∧
        s.playground.registry.isListed d.name = false ∧ refusals[i]? = some (some e))) ∧
    lines s.said = Terminal.announced ds ++
      refusals.reduceOption.map (fun e => Terminal.warned e.message) ++
      (s.playground.registry.dependencies.filterMap Terminal.unbound?).flatMap lines ++ [""]
  /-- Names are listed in the order in which they were first accepted. -/
  listed_eq : s.playground.registry.listings.keys = ((admitted ds).map (·.name)).eraseDups
  /-- They show what was accepted last. -/
  latest : ∀ name l, s.playground.registry.listings.get? name = some l →
    (admitted ds).reverse.find? (·.name = name) = some l.dependency
  /-- Every listing is bound, and no line says that it is not, or one line says
  that it is not, with the reason.  Lines on which a message goes on are set
  aside: they may be any text. -/
  settled : ∀ l ∈ s.playground.registry.dependencies,
    (l.status = .loaded ∧ s.playground.registry.isBound l.dependency.name = true ∧
      Terminal.unbound? l = none ∧
      (lines s.said).countP (Terminal.speaksOf l.dependency) =
        (Terminal.continued s.playground.registry.dependencies).countP
          (Terminal.speaksOf l.dependency)) ∨
    (∃ message, l.status = .failed message ∧
      s.playground.registry.isBound l.dependency.name = false ∧
      Terminal.unbound? l = some (Terminal.unboundHead l.dependency ++ message) ∧
      (lines s.said).countP (Terminal.speaksOf l.dependency) =
        (Terminal.continued s.playground.registry.dependencies).countP
          (Terminal.speaksOf l.dependency) + 1)

/-- What has been listed is not unlisted. -/
theorem namesBefore_subset (ds : List Dependency) (k : Nat) :
    namesBefore ds k ⊆ (admitted ds).map (·.name) := by
  have hprefix : ∀ before after : List Dependency, admitted before <+: admitted (before ++ after) := by
    intro before after
    induction after using List.reverseRecOn with
    | nil => simp
    | append_singleton after d ih =>
      rw [← List.append_assoc, Dependency.admitted_snoc]
      split
      · exact ih.trans (List.prefix_append _ _)
      · exact ih
  have h := hprefix (ds.take k) (ds.drop k)
  rw [List.take_append_drop] at h
  exact (h.map (·.name)).subset

theorem name_mem_of_admits {i : Nat} (hd : ds[i]? = some d) (h : Admits (namesBefore ds i) d) :
    d.name ∈ (admitted ds).map (·.name) := by
  apply namesBefore_subset ds (i + 1)
  unfold namesBefore
  rw [Underway.take_succ_eq hd, Dependency.admitted_snoc]
  have hlast : d.name ∈ (admitted (ds.take i) ++ [d]).map (·.name) :=
    List.mem_map_of_mem (List.mem_append_right _ List.mem_cons_self)
  exact (if_pos (c := Admits (namesBefore ds i) d) h).symm ▸ hlast

section

variable {p : Playground}

theorem ended_of_isDone {notices : String} (h : Opened.isDone ⟨p, notices⟩ = true) :
    ∀ task ∈ p.tasks, ∃ result, task = .ended result := by
  intro task htask
  have hend := Array.all_eq_true_iff_forall_mem.mp h task htask
  cases task with
  | ended result => exact ⟨result, rfl⟩
  | queued d => cases hend
  | loading l => cases hend

theorem keys_of_underway (h : Underway ds ds.length p) :
    p.registry.listings.keys = ((admitted ds).map (·.name)).eraseDups := by
  rw [h.keys_eq]
  unfold namesBefore
  rw [List.take_length]

theorem mem_keys_of_underway (h : Underway ds ds.length p) {name : String} :
    name ∈ p.registry.listings.keys ↔ name ∈ (admitted ds).map (·.name) := by
  rw [keys_of_underway h]
  exact List.mem_eraseDups

/-- A load that has ended was refused, or its name is listed. -/
theorem refused_of_ended (h : Underway ds ds.length p)
    (hended : ∀ task ∈ p.tasks, ∃ result, task = .ended result) {i : Nat} (hd : ds[i]? = some d) :
    (Admits (namesBefore ds i) d ∧ p.registry.isListed d.name = true ∧
      (p.tasks.toList.map refusal?)[i]? = some none) ∨
    (∃ e, Refuses (namesBefore ds i) d e ∧ p.registry.isListed d.name = false ∧
      (p.tasks.toList.map refusal?)[i]? = some (some e)) := by
  obtain ⟨task, htask, hanswers⟩ := h.tasks.answers (List.getElem?_eq_some_iff.mp hd).1 hd
  obtain ⟨result, rfl⟩ := hended task (Array.mem_of_getElem? htask)
  have hrefusal : (p.tasks.toList.map refusal?)[i]? = some (refusal? (.ended result)) := by
    rw [List.getElem?_map, Array.getElem?_toList, htask]
    rfl
  rw [hrefusal]
  rcases refusal?_of_answers hanswers with ⟨hadmits, hquiet⟩ | ⟨e, hrefuses, he⟩
  · refine Or.inl ⟨hadmits, ?_, by rw [hquiet]⟩
    exact Table.contains_iff.mpr ((mem_keys_of_underway h).mpr (name_mem_of_admits hd hadmits))
  · refine Or.inr ⟨e, hrefuses, ?_, by rw [he]⟩
    have hunlisted : d.name ∉ p.registry.listings.keys :=
      h.wellFormed.not_mem_of_refuses
        (hrefuses.mono fun _ hname => (mem_keys_of_underway h).mpr (namesBefore_subset ds i hname))
    exact Bool.eq_false_iff.mpr fun hlisted => hunlisted (Table.contains_iff.mp hlisted)

/-- Every refusal is that of a spec. -/
theorem refuses_of_mem (h : Underway ds ds.length p)
    (hended : ∀ task ∈ p.tasks, ∃ result, task = .ended result) {e : Dependency.Error}
    (he : e ∈ (p.tasks.toList.map refusal?).reduceOption) :
    ∃ i, ∃ d ∈ ds, Refuses (namesBefore ds i) d e := by
  rw [List.reduceOption_mem_iff] at he
  obtain ⟨i, hi⟩ := List.mem_iff_getElem?.mp he
  have hlt : i < ds.length := by
    have hlt := (List.getElem?_eq_some_iff.mp hi).1
    rwa [List.length_map, Array.length_toList, h.tasks.size_eq] at hlt
  have hd : ds[i]? = some ds[i] := List.getElem?_eq_getElem hlt
  rcases refused_of_ended h hended hd with ⟨-, -, hnone⟩ | ⟨e', hrefuses, -, hsome⟩
  · rw [hnone] at hi
    cases hi
  · rw [hsome] at hi
    cases hi
    exact ⟨i, ds[i], List.getElem_mem hlt, hrefuses⟩

/-- What is kept was given. -/
theorem admitted_subset (ds : List Dependency) : admitted ds ⊆ ds := by
  induction ds using List.reverseRecOn with
  | nil => exact List.Subset.refl _
  | append_singleton ds d ih =>
    rw [Dependency.admitted_snoc]
    split
    · exact List.append_subset.mpr
        ⟨fun d' hd' => List.mem_append_left _ (ih hd'), List.subset_append_right _ _⟩
    · exact fun d' hd' => List.mem_append_left _ (ih hd')

/-- What is listed has been read from a spec. -/
theorem mem_of_listed (h : Underway ds ds.length p) {l : Dependency.Listing}
    (hl : l ∈ p.registry.dependencies) : l.dependency ∈ ds := by
  obtain ⟨name, hget⟩ := Registry.mem_dependencies.mp hl
  have hbegun := h.wellFormed.begun_at hget
  rw [List.take_length] at hbegun
  exact admitted_subset ds (List.mem_of_getElem? hbegun)

/-- Names are listed once. -/
theorem nodup_names (h : Underway ds ds.length p) :
    (p.registry.dependencies.map (·.dependency.name)).Nodup := by
  have hkeys : p.registry.dependencies.map (·.dependency.name) = p.registry.listings.keys := by
    show (p.registry.listings.entries.map Prod.snd).map _ = _
    rw [List.map_map]
    exact List.map_congr_left fun e he => h.wellFormed.named (Table.mem_entries_iff.mp he)
  rw [hkeys]
  exact p.registry.listings.keys_nodup

/-- Once all loads have ended, no listing is pending: it is bound, or says why not. -/
theorem settled_of_ended (h : Underway ds ds.length p)
    (hended : ∀ task ∈ p.tasks, ∃ result, task = .ended result) {l : Dependency.Listing}
    (hl : l ∈ p.registry.dependencies) :
    (l.status = .loaded ∧ p.registry.isBound l.dependency.name = true) ∨
    (∃ message, l.status = .failed message ∧ p.registry.isBound l.dependency.name = false) := by
  obtain ⟨name, hget⟩ := Registry.mem_dependencies.mp hl
  have hname : l.dependency.name = name := h.wellFormed.named hget
  show (_ ∧ p.registry.bundles.contains _ = true) ∨
    ∃ message, _ ∧ p.registry.bundles.contains _ = false
  rw [hname]
  cases hstatus : l.status with
  | loading =>
    obtain ⟨i, load, hload, -⟩ := h.pending hget hstatus
    obtain ⟨result, hresult⟩ := hended _ (Array.mem_of_getElem? hload)
    cases hresult
  | loaded =>
    obtain ⟨b, hb⟩ := h.wellFormed.loaded_bound hget hstatus
    exact Or.inl ⟨rfl, Table.contains_iff.mpr (Table.mem_keys_iff.mpr ⟨b, hb⟩)⟩
  | failed message =>
    have hunbound := h.wellFormed.failed_unbound hget hstatus
    refine Or.inr ⟨message, rfl, Bool.eq_false_iff.mpr fun hbound => ?_⟩
    exact Table.get?_eq_none_iff.mp hunbound (Table.contains_iff.mp hbound)

/-- What has been printed once all loads have ended. -/
theorem lines_said (h : Underway ds ds.length p) (hsolid : ∀ d ∈ ds, d.Solid)
    (hended : ∀ task ∈ p.tasks, ∃ result, task = .ended result) {s : Opened}
    (hplayground : s.playground = p)
    (hnotices : s.notices = (if ds.isEmpty then "" else Terminal.loading ds.length) ++
      String.join (p.tasks.toList.map rejection)) :
    lines s.said = Terminal.announced ds ++
      (p.tasks.toList.map refusal?).reduceOption.map (fun e => Terminal.warned e.message) ++
      (p.registry.dependencies.filterMap Terminal.unbound?).flatMap lines ++ [""] := by
  let refused := (p.tasks.toList.map refusal?).reduceOption.map fun e => Terminal.warned e.message
  have hrefused : ∀ t ∈ refused, OneLine t := by
    intro t ht
    obtain ⟨e, he, rfl⟩ := List.mem_map.mp ht
    obtain ⟨i, d, hd, hrefuses⟩ := refuses_of_mem h hended he
    refine Terminal.oneLine_refusal (fun name hname => ?_) (hsolid d hd).oneLine_name hrefuses
    obtain ⟨d', hd', rfl⟩ := List.mem_map.mp hname
    exact (hsolid d' (List.mem_of_mem_take (admitted_subset _ hd'))).oneLine_name
  have hrejected : String.join (p.tasks.toList.map rejection) =
      String.join (refused.map Terminal.line) := by
    rw [show refused = (p.tasks.toList.map refusal?).reduceOption.map _ from rfl,
      ← List.reduceOption_map, ← Terminal.join_reduceOption, List.map_map, List.map_map]
    exact congrArg String.join (List.map_congr_left fun task _ => rejection_eq task)
  rw [Opened.said, hnotices, hplayground, Terminal.unboundAll_eq, ← Terminal.join_announced,
    hrejected, ← String.join_append, ← String.join_append, ← List.map_append, ← List.map_append,
    Terminal.lines_join, List.flatMap_append, List.flatMap_append,
    Terminal.flatMap_lines fun _ => Terminal.oneLine_of_mem_announced,
    Terminal.flatMap_lines hrefused]

/-- Of the lines that are printed, one is about a listing if its load failed, and
none otherwise, but for lines inside of messages. -/
theorem countP_said (h : Underway ds ds.length p) (hsolid : ∀ d ∈ ds, d.Solid)
    (hended : ∀ task ∈ p.tasks, ∃ result, task = .ended result) {s : Opened}
    (hlines : lines s.said = Terminal.announced ds ++
      (p.tasks.toList.map refusal?).reduceOption.map (fun e => Terminal.warned e.message) ++
      (p.registry.dependencies.filterMap Terminal.unbound?).flatMap lines ++ [""])
    {l : Dependency.Listing} (hl : l ∈ p.registry.dependencies) :
    (lines s.said).countP (Terminal.speaksOf l.dependency) =
      (if (Terminal.message? l).isSome then 1 else 0) +
        (Terminal.continued p.registry.dependencies).countP (Terminal.speaksOf l.dependency) := by
  have hd : l.dependency.Solid := hsolid _ (mem_of_listed h hl)
  have hannounced : (Terminal.announced ds).countP (Terminal.speaksOf l.dependency) = 0 := by
    rw [List.countP_eq_zero]
    intro t ht
    rw [Terminal.not_speaksOf_announced l.dependency ht]
    exact Bool.false_ne_true
  have hrefused : ((p.tasks.toList.map refusal?).reduceOption.map fun e =>
      Terminal.warned e.message).countP (Terminal.speaksOf l.dependency) = 0 := by
    rw [List.countP_eq_zero]
    intro t ht
    obtain ⟨e, he, rfl⟩ := List.mem_map.mp ht
    obtain ⟨i, d, hmem, hrefuses⟩ := refuses_of_mem h hended he
    rw [Terminal.not_speaksOf_refusal hd (hsolid d hmem) hrefuses]
    exact Bool.false_ne_true
  have hend : [""].countP (Terminal.speaksOf l.dependency) = 0 := by
    rw [List.countP_cons, Terminal.not_speaksOf_empty]
    rfl
  rw [hlines, List.countP_append, List.countP_append, List.countP_append, hannounced, hrefused, hend,
    Terminal.countP_lines_unbound hd (fun l' hl' => hsolid _ (mem_of_listed h hl')),
    Terminal.countP_listings (nodup_names h) hl]
  omega

/-- When all tasks have ended, everything has been said. -/
theorem reported_of_underway {notices : String} (h : Underway ds ds.length p)
    (hsolid : ∀ d ∈ ds, d.Solid)
    (hnotices : notices = (if ds.isEmpty then "" else Terminal.loading ds.length) ++
      String.join (p.tasks.toList.map rejection))
    (hdone : Opened.isDone ⟨p, notices⟩ = true) : Reported ds ⟨p, notices⟩ := by
  have hended := ended_of_isDone hdone
  have hlines := lines_said h hsolid hended (s := ⟨p, notices⟩) rfl hnotices
  have hlength : (p.tasks.toList.map refusal?).length = ds.length := by
    rw [List.length_map, Array.length_toList, h.tasks.size_eq]
  refine
    { lines_eq := ⟨_, hlength, fun _ _ => refused_of_ended h hended, hlines⟩
      listed_eq := keys_of_underway h
      latest := ?_
      settled := ?_ }
  · intro name l hl
    have hlatest := h.latest hl
    rw [List.take_length] at hlatest
    exact hlatest
  · intro l hl
    have hl' : l ∈ p.registry.dependencies := hl
    have hcount := countP_said h hsolid hended hlines hl'
    rcases settled_of_ended h hended hl' with ⟨hstatus, hbound⟩ | ⟨message, hstatus, hunbound⟩
    · have hnone : Terminal.message? l = none := by rw [Terminal.message?, hstatus]
      refine Or.inl ⟨hstatus, hbound, by rw [Terminal.unbound?, hnone]; rfl, ?_⟩
      rw [hcount, hnone]
      exact Nat.zero_add _
    · have hsome : Terminal.message? l = some message := by rw [Terminal.message?, hstatus]
      refine Or.inr ⟨message, hstatus, hunbound, by rw [Terminal.unbound?, hsome]; rfl, ?_⟩
      rw [hcount, hsome]
      exact Nat.add_comm _ _

end

/-! ## Reading the specs -/

/-- A spec that can be read names a package. -/
theorem name_ne_empty_of_parseSpec {spec : String}
    (h : parseSpec spec = .ok d) : d.name ≠ "" := by
  unfold parseSpec at h
  dsimp only at h
  split at h
  · rename_i hvalid
    cases h
    intro hname
    have hnil := String.ofList_eq_empty_iff.mp hname
    rw [hnil] at hvalid
    simp [Dependency.isPackageName] at hvalid
  · cases h

theorem parseSpec_error {spec : String} {e : Dependency.Error} (h : parseSpec spec = .error e) :
    e = .invalidSpec (String.ofList (Text.trimBy Text.isWhiteSpace spec.toList)) := by
  unfold parseSpec at h
  dsimp only at h
  split at h
  · cases h
  · cases h
    rfl

theorem mapM_reads {specs : List String} (h : Reads specs ds) :
    (specs.mapM fun spec => (parseSpec spec).mapError Error.dependency) = .ok ds := by
  induction h with
  | nil => rfl
  | cons hspec _ ih =>
    rw [List.mapM_cons, hspec, ih]
    rfl

theorem mapM_unreadable {before : List String} (h : Reads before ds) {bad : String}
    {e : Dependency.Error} (hbad : parseSpec bad = .error e) (after : List String) :
    ((before ++ bad :: after).mapM fun spec => (parseSpec spec).mapError Error.dependency) =
      .error (.dependency e) := by
  induction h with
  | nil =>
    rw [List.nil_append, List.mapM_cons, hbad]
    rfl
  | cons hspec _ ih =>
    rw [List.cons_append, List.mapM_cons, hspec, ih]
    rfl

theorem Reads.named {specs : List String} (h : Reads specs ds) : ∀ d ∈ ds, d.name ≠ "" := by
  induction h with
  | nil => exact fun d hd => absurd hd List.not_mem_nil
  | cons hspec _ ih =>
    intro d hd
    rcases List.mem_cons.mp hd with rfl | hrest
    · exact name_ne_empty_of_parseSpec hspec
    · exact ih d hrest

theorem Reads.solid {specs : List String} (h : Reads specs ds) : ∀ d ∈ ds, d.Solid := by
  induction h with
  | nil => exact fun d hd => absurd hd List.not_mem_nil
  | cons hspec _ ih =>
    intro d hd
    rcases List.mem_cons.mp hd with rfl | hrest
    · exact Dependency.solid_of_parseSpec hspec
    · exact ih d hrest

/-- Opening a session fails with the first spec that cannot be read, whatever
the network would say; otherwise it opens, and once all loads have ended no
dependency goes without a binding unless something was said about it: every
spec is listed or has a warning of its own, and every listing is bound or has a
line that says why it is not.  The order in which the loads went on makes no
difference to that. -/
theorem openSession_reports (c : Config) :
    (∀ before ds bad e after, Reads before ds → parseSpec bad = .error e →
      e = .invalidSpec (String.ofList (Text.trimBy Text.isWhiteSpace bad.toList)) ∧
      ∀ pace, openSession pace c (before ++ bad :: after) = .error (.dependency e)) ∧
    (∀ specs ds (pace : Pace), Reads specs ds → pace.FailsFetching →
      ∃ s, openSession pace c specs = .ok s ∧
        (s.isDone = true → Reported ds s)) := by
  refine ⟨?_, ?_⟩
  · intro before ds bad e after hbefore hbad
    refine ⟨parseSpec_error hbad, fun pace => ?_⟩
    unfold openSession
    rw [mapM_unreadable hbefore hbad after]
    rfl
  · intro specs ds pace hreads hpace
    unfold openSession
    rw [mapM_reads hreads]
    cases ds with
    | nil =>
      refine ⟨⟨.new c, ""⟩, rfl, fun hdone => ?_⟩
      exact reported_of_underway (Underway.queue c []) hreads.solid rfl hdone
    | cons d ds =>
      refine ⟨_, rfl, fun hdone => ?_⟩
      have hstarted := (Underway.queue c (d :: ds)).startAll hreads.named hpace.1 _ (Nat.le_refl _)
      have hgone := hstarted.goOnAll hpace.2
      rw [← Playground.attend_append] at hgone
      exact reported_of_underway hgone hreads.solid rfl hdone

theorem failsFetching_offline : Dependency.FailsFetching Dependency.offline := by
  intro url e h
  cases h
  exact Or.inl ⟨_, rfl⟩

/-- One spec is reserved, one collides with an earlier one, and one is given
twice; the loads wait at first, and the one that was started last ends first. -/
theorem openSession_reports_colliding :
    let c : Config := { Config.standard with cdnBase := "file:///cdn" }
    let specs := ["left@1", "console", "@a/x@1", "@b/x", "left@2"]
    let ds := [Dependency.ofName "left" "1", .ofName "console" "latest", .ofName "@a/x" "1",
      .ofName "@b/x" "latest", .ofName "left" "2"]
    let pace : Pace := ⟨fun _ _ => .waiting,
      [4, 0, 2].map fun i => (i, Dependency.offline)⟩
    Reads specs ds ∧ pace.FailsFetching ∧
    (∃ s, openSession pace c specs = .ok s ∧ s.isDone = true ∧ Reported ds s) ∧
    ∀ pace, openSession pace c ["left@1", " @ ", "@"] =
      .error (.dependency (.invalidSpec "@")) := by
  intro c specs ds pace
  have hreads : Reads specs ds :=
    .cons rfl (.cons rfl (.cons rfl (.cons rfl (.cons rfl .nil))))
  have hpace : pace.FailsFetching := by
    refine ⟨fun _ _ _ h => Dependency.Reply.noConfusion h, ?_⟩
    intro turn hturn
    obtain ⟨i, -, rfl⟩ := List.mem_map.mp hturn
    exact failsFetching_offline
  obtain ⟨s, hs, hreported⟩ := (openSession_reports c).2 specs ds pace hreads hpace
  have hdone : (openSession pace c specs).toOption.any Opened.isDone = true := by
    decide +kernel
  rw [hs] at hdone
  refine ⟨hreads, hpace, ⟨s, hs, hdone, hreported hdone⟩, fun pace => ?_⟩
  exact ((openSession_reports c).1 ["left@1"] [.ofName "left" "1"] " @ " _ ["@"]
    (.cons rfl .nil) rfl).2 pace

end Command

end Playpen
