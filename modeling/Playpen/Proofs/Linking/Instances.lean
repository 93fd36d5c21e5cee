import Playpen.Proofs.Engine.Computation
import Playpen.Proofs.Linking.Sources

/-!
# One source and one instance for each URL

The linker of a sandbox keeps two tables: the sources that it was handed, and
the modules that it has read from them.  They are filled at different times,
since bundles come one after the other and a module is read when it is first
asked for, by a link or by an import in the middle of one.  A history of a
linker is therefore a list of bundles and questions in any order, with whatever
else the engine does in between.

`Modules.run_get` and `Modules.run_parse` say once what a question does.  From
them, what is in either table stays there (`sources_append`, `instances_append`),
and each instance goes back to the question that had it read
(`exists_reading`).  The main statement is `linker_steady`.
-/

namespace Playpen.Engine

open Dependency (Bundle)

/-! ## A question -/

namespace Modules

variable {h : Host} {m : Machine} {url : String}

/-- How a question may end: the module was read before, or it is read now from
its source, which may be no module, or there is no source. -/
inductive Answer (h : Host) (m : Machine) (url : String) : Ending Nat → Prop
  | found {i : Nat} (hi : m.instances.get? url = some i) : Answer h m url (.ok i m)
  | read {text : String} {m' : Machine} (hi : m.instances.get? url = none)
      (htext : m.sources.get? url = some text)
      (hparse : (parse url text).run h m = .ok m.modules.size m') (hsources : m'.sources = m.sources)
      (hinstances : m'.instances = m.instances.insert url m.modules.size) :
      Answer h m url (.ok m.modules.size m')
  | unreadable {text message : String} (hi : m.instances.get? url = none)
      (htext : m.sources.get? url = some text) :
      Answer h m url (.error (.raised .syntaxError message none) m)
  | missing (hi : m.instances.get? url = none) (hsource : m.sources.get? url = none) :
      Answer h m url (.error (notPrefetched url) m)

/-- A text that is no module changes nothing.  Of any other, a new module is
made and kept under its URL. -/
theorem run_parse (url text : String) (h : Host) (m : Machine) :
    (∃ message, (parse url text).run h m = .error (.raised .syntaxError message none) m) ∨
    ∃ m', (parse url text).run h m = .ok m.modules.size m' ∧ m'.sources = m.sources ∧
      m'.instances = m.instances.insert url m.modules.size := by
  unfold parse
  cases Source.moduleTree text with
  | error message => exact .inl ⟨message, rfl⟩
  | ok tree => exact .inr ⟨_, rfl, rfl, rfl⟩

/-- The module at a place is the one that a text makes: it stands under its URL,
and asks for what the engine reads in the literals of the text. -/
def Holds (m : Machine) (url text : String) (i : Nat) : Prop :=
  ∃ module, m.modules[i]? = some module ∧ module.url = url ∧
    ∀ w, w ∈ module.requests ↔ ∃ l ∈ linked text, l.wide = w

/-- What is read from a text is kept. -/
theorem holds_of_parse {text : String} {i : Nat} {m' : Machine}
    (hparse : (parse url text).run h m = .ok i m') : Holds m' url text i := by
  unfold parse at hparse
  cases htree : Source.moduleTree text with
  | error message =>
    rw [htree] at hparse
    cases hparse
  | ok tree =>
    rw [htree] at hparse
    cases hparse
    exact ⟨_, Array.getElem?_push_size, rfl, mem_requests_moduleOf htree url
      ⟨some url, tree.2.src⟩ m.modules.size m.codeCounter⟩

/-- A module that was read is there, one that was not is read from its source,
and without a source there is none. -/
theorem run_get (url : String) (h : Host) (m : Machine) : (get url).run h m =
    match m.instances.get? url, m.sources.get? url with
    | some i, _ => .ok i m
    | none, some text => (parse url text).run h m
    | none, none => .error (notPrefetched url) m := by
  unfold get
  rw [M.run_bind, M.run_look, M.andThen_ok]
  cases m.instances.get? url with
  | some i => rfl
  | none =>
    show (M.look _ >>= _ : M Nat).run h m = _
    rw [M.run_bind, M.run_look, M.andThen_ok]
    cases m.sources.get? url with
    | some text => rfl
    | none => rfl

theorem answer_get (url : String) (h : Host) (m : Machine) :
    Answer h m url ((get url).run h m) := by
  rw [run_get]
  cases hi : m.instances.get? url with
  | some i => exact .found hi
  | none =>
    cases htext : m.sources.get? url with
    | none => exact .missing hi htext
    | some text =>
      rcases run_parse url text h m with ⟨message, hparse⟩ | ⟨m', hparse, hsources, hinstances⟩
      · dsimp only
        rw [hparse]
        exact .unreadable hi htext
      · dsimp only
        rw [hparse]
        exact .read hi htext hparse hsources hinstances

theorem run_get_of_instance {i : Nat} (hi : m.instances.get? url = some i) :
    (get url).run h m = .ok i m := by
  rw [run_get, hi]

theorem run_get_of_none (hi : m.instances.get? url = none) (hsource : m.sources.get? url = none) :
    (get url).run h m = .error (notPrefetched url) m := by
  rw [run_get, hi, hsource]

end Modules

/-! ## Histories -/

/-- What happens to a linker and around it. -/
inductive LinkerEvent where
  /-- A bundle is handed over. -/
  | add (b : Bundle)
  /-- The module at a URL is asked for. -/
  | ask (url : String)
  /-- The engine does something else, and leaves the linker's tables alone. -/
  | other (change : Machine → Machine)
      (keeps : ∀ m, (change m).sources = m.sources ∧ (change m).instances = m.instances)

namespace LinkerEvent

def step (h : Host) (m : Machine) : LinkerEvent → Machine
  | add b => ((Sandbox.mk m).addBundle b).machine
  | ask url => ((Modules.get url).run h m).machine
  | other change _ => change m

/-- The machine of a new sandbox after a history. -/
def run (limits : Limits) (h : Host) (events : List LinkerEvent) : Machine :=
  events.foldl (step h) (Sandbox.new limits).machine

/-- The bundle that is handed over, if one is. -/
def bundle? : LinkerEvent → Option Bundle
  | add b => some b
  | ask _ | other _ _ => none

/-- The bundles handed over, in order. -/
def handed (events : List LinkerEvent) : List Bundle := events.filterMap bundle?

section

variable {limits : Limits} {h : Host} {m : Machine} {e : LinkerEvent} {url text : String} {i : Nat}
  {events later : List LinkerEvent}

theorem run_append (limits : Limits) (h : Host) (events later : List LinkerEvent) :
    run limits h (events ++ later) = later.foldl (step h) (run limits h events) :=
  List.foldl_append

theorem run_snoc (limits : Limits) (h : Host) (events : List LinkerEvent) (e : LinkerEvent) :
    run limits h (events ++ [e]) = step h (run limits h events) e :=
  run_append limits h events [e]

theorem handed_snoc (events : List LinkerEvent) (e : LinkerEvent) :
    handed (events ++ [e]) = handed events ++ e.bundle?.toList := by
  unfold handed
  rw [List.filterMap_append]
  cases hb : e.bundle? with
  | none => simp [hb]
  | some b => simp [hb]

/-! ## What an event does to the tables -/

theorem step_ask (h : Host) (m : Machine) (url : String) :
    step h m (ask url) = ((Modules.get url).run h m).machine := rfl

/-- A question does nothing, or has a module read and its instance kept. -/
theorem step_ask_cases (h : Host) (m : Machine) (url : String) :
    step h m (ask url) = m ∨
    ∃ text, m.instances.get? url = none ∧ m.sources.get? url = some text ∧
      (Modules.parse url text).run h m = .ok m.modules.size (step h m (ask url)) ∧
      (step h m (ask url)).sources = m.sources ∧
      (step h m (ask url)).instances = m.instances.insert url m.modules.size := by
  have hanswer := Modules.answer_get url h m
  rw [step_ask]
  generalize (Modules.get url).run h m = r at hanswer ⊢
  cases hanswer with
  | found hi => exact .inl rfl
  | read hi htext hparse hsources hinstances =>
    exact .inr ⟨_, hi, htext, hparse, hsources, hinstances⟩
  | unreadable hi htext => exact .inl rfl
  | missing hi hsource => exact .inl rfl

/-- Only a bundle brings sources, and for URLs that have none. -/
theorem sources_step (h : Host) (m : Machine) (e : LinkerEvent) (url : String) :
    (step h m e).sources.get? url = (m.sources.get? url).or (e.bundle?.bind (·.source? url)) := by
  cases e with
  | add b => exact Sandbox.get?_sources_addBundle ⟨m⟩ b url
  | ask asked =>
    rcases step_ask_cases h m asked with hsame | ⟨_, -, -, -, hsources, -⟩
    · rw [hsame]
      exact Option.or_none.symm
    · rw [hsources]
      exact Option.or_none.symm
  | other change keeps =>
    rw [step, (keeps m).1]
    exact Option.or_none.symm

/-- An instance is there to stay. -/
theorem instances_step (hi : m.instances.get? url = some i) :
    (step h m e).instances.get? url = some i := by
  cases e with
  | add b => exact hi
  | ask asked =>
    rcases step_ask_cases h m asked with hsame | ⟨_, hnone, -, -, -, hinstances⟩
    · rw [hsame, hi]
    · have hne : url ≠ asked := by
        rintro rfl
        rw [hi] at hnone
        cases hnone
      rw [hinstances, Table.get?_insert, if_neg hne, hi]
  | other change keeps =>
    rw [step, (keeps m).2, hi]

/-! ## What a history leads to -/

/-- Every source is the one of the first bundle that has its URL. -/
theorem sources_run (limits : Limits) (h : Host) (events : List LinkerEvent) (url : String) :
    (run limits h events).sources.get? url = (handed events).findSome? (·.source? url) := by
  induction events using List.reverseRecOn with
  | nil => rfl
  | append_singleton events e ih =>
    rw [run_snoc, sources_step, ih, handed_snoc, List.findSome?_append]
    cases e.bundle? with
    | none => rfl
    | some b =>
      show _ = ((handed events).findSome? _).or ([b].findSome? _)
      rw [List.findSome?_singleton]
      rfl

theorem sources_append (hsource : (run limits h events).sources.get? url = some text)
    (later : List LinkerEvent) : (run limits h (events ++ later)).sources.get? url = some text := by
  rw [sources_run] at hsource ⊢
  unfold handed at hsource ⊢
  rw [List.filterMap_append, List.findSome?_append, hsource, Option.some_or]

theorem instances_append (hi : (run limits h events).instances.get? url = some i)
    (later : List LinkerEvent) : (run limits h (events ++ later)).instances.get? url = some i := by
  induction later using List.reverseRecOn with
  | nil => rwa [List.append_nil]
  | append_singleton later e ih =>
    rw [← List.append_assoc, run_snoc]
    exact instances_step ih

/-- Some question before the end of a history had the module read, from the
source that its URL then had, as this instance, which holds what the source
says. -/
def ReadFrom (limits : Limits) (h : Host) (events : List LinkerEvent) (url text : String) (i : Nat) :
    Prop :=
  ∃ before, before ++ [ask url] <+: events ∧
    (run limits h before).sources.get? url = some text ∧
    (Modules.parse url text).run h (run limits h before) =
      .ok i (run limits h (before ++ [ask url])) ∧
    Modules.Holds (run limits h (before ++ [ask url])) url text i

theorem ReadFrom.append (hread : ReadFrom limits h events url text i) (later : List LinkerEvent) :
    ReadFrom limits h (events ++ later) url text i := by
  obtain ⟨before, hbefore, hrest⟩ := hread
  exact ⟨before, hbefore.trans (List.prefix_append events later), hrest⟩

/-- A question that has a module read. -/
theorem readFrom_snoc (hi : (run limits h events).instances.get? url = none)
    (hnew : (run limits h (events ++ [ask url])).instances.get? url = some i) :
    ∃ text, ReadFrom limits h (events ++ [ask url]) url text i := by
  rcases step_ask_cases h (run limits h events) url with
    hsame | ⟨text, -, htext, hparse, -, hinstances⟩
  · rw [run_snoc, hsame, hi] at hnew
    cases hnew
  · rw [run_snoc, hinstances, Table.get?_insert, if_pos rfl] at hnew
    cases hnew
    rw [← run_snoc] at hparse
    exact ⟨text, events, List.prefix_rfl, htext, hparse, Modules.holds_of_parse hparse⟩

/-- Every instance goes back to a question. -/
theorem exists_reading (hi : (run limits h events).instances.get? url = some i) :
    ∃ text, ReadFrom limits h events url text i := by
  induction events using List.reverseRecOn with
  | nil => cases hi
  | append_singleton events e ih =>
    cases hbefore : (run limits h events).instances.get? url with
    | some j =>
      have hsame := instances_append hbefore [e]
      rw [hi] at hsame
      cases hsame
      obtain ⟨text, hread⟩ := ih hbefore
      exact ⟨text, hread.append [e]⟩
    | none =>
      -- the event is a question about this URL, since no other makes the instance
      cases e with
      | add b =>
        rw [run_snoc] at hi
        rw [show (step h (run limits h events) (add b)).instances =
          (run limits h events).instances from rfl, hbefore] at hi
        cases hi
      | ask asked =>
        by_cases hurl : url = asked
        · subst hurl
          exact readFrom_snoc hbefore hi
        · rcases step_ask_cases h (run limits h events) asked with
            hsame | ⟨_, -, -, -, -, hinstances⟩
          · rw [run_snoc, hsame, hbefore] at hi
            cases hi
          · rw [run_snoc, hinstances, Table.get?_insert, if_neg hurl, hbefore] at hi
            cases hi
      | other change keeps =>
        rw [run_snoc, step, (keeps _).2, hbefore] at hi
        cases hi

/-- An instance has been read from a source that its URL still has. -/
theorem ReadFrom.source (hread : ReadFrom limits h events url text i) :
    (run limits h events).sources.get? url = some text := by
  obtain ⟨before, ⟨later, rfl⟩, hsource, -, -⟩ := hread
  rw [List.append_assoc]
  exact sources_append hsource ([ask url] ++ later)

/-! ## Answers -/

/-- An answer leaves the instance in the table. -/
theorem instances_of_ok {m' : Machine}
    (hget : (Modules.get url).run h (run limits h events) = .ok i m') :
    (run limits h (events ++ [ask url])).instances.get? url = some i := by
  have hanswer := Modules.answer_get url h (run limits h events)
  rw [run_snoc, step_ask, hget]
  rw [hget] at hanswer
  cases hanswer with
  | found hi => exact hi
  | read hi htext hparse hsources hinstances =>
    show m'.instances.get? url = _
    rw [hinstances, Table.get?_insert, if_pos rfl]

theorem sources_eq_none_iff :
    (run limits h events).sources.get? url = none ↔ ∀ b ∈ handed events, url ∉ b.urls := by
  rw [sources_run, List.findSome?_eq_none_iff]
  exact forall₂_congr fun b _ => Table.get?_eq_none_iff

/-- The complaint comes about the URLs that no bundle had, and about no others. -/
theorem run_get_eq_notPrefetched_iff :
    (∃ m, (Modules.get url).run h (run limits h events) = .error (Modules.notPrefetched url) m) ↔
      ∀ b ∈ handed events, url ∉ b.urls := by
  constructor
  · rintro ⟨m, hget⟩
    have hanswer := Modules.answer_get url h (run limits h events)
    rw [hget] at hanswer
    cases hanswer with
    | missing hi hsource => exact sources_eq_none_iff.mp hsource
  · intro hnone
    have hsource : (run limits h events).sources.get? url = none := sources_eq_none_iff.mpr hnone
    refine ⟨_, Modules.run_get_of_none ?_ hsource⟩
    cases hi : (run limits h events).instances.get? url with
    | none => rfl
    | some i =>
      obtain ⟨text, hread⟩ := exists_reading hi
      rw [hread.source] at hsource
      cases hsource

end

end LinkerEvent

/-! ## The order of bundles -/

/-- Bundles that hold the same source wherever two of them hold a URL. -/
def Agree (bundles : List Bundle) : Prop :=
  ∀ b ∈ bundles, ∀ c ∈ bundles, ∀ url s t,
    b.source? url = some s → c.source? url = some t → s = t

theorem Agree.findSome?_eq_some_iff {bundles : List Bundle} (h : Agree bundles) {url text : String} :
    bundles.findSome? (·.source? url) = some text ↔ ∃ b ∈ bundles, b.source? url = some text := by
  constructor
  · intro hfind
    exact List.exists_of_findSome?_eq_some hfind
  · rintro ⟨b, hb, htext⟩
    have hsome : (bundles.findSome? (·.source? url)).isSome :=
      List.findSome?_isSome_iff.mpr ⟨b, hb, by rw [htext]; rfl⟩
    obtain ⟨text', hfind⟩ := Option.isSome_iff_exists.mp hsome
    obtain ⟨c, hc, htext'⟩ := List.exists_of_findSome?_eq_some hfind
    rw [hfind, h b hb c hc url text text' htext htext']

theorem Agree.findSome?_perm {bundles bundles' : List Bundle} (h : Agree bundles)
    (hperm : bundles.Perm bundles') (url : String) :
    bundles.findSome? (·.source? url) = bundles'.findSome? (·.source? url) := by
  have h' : Agree bundles' := fun b hb c hc =>
    h b (hperm.mem_iff.mpr hb) c (hperm.mem_iff.mpr hc)
  apply Option.ext
  intro text
  rw [h.findSome?_eq_some_iff, h'.findSome?_eq_some_iff]
  exact exists_congr fun b => and_congr_left' hperm.mem_iff

open LinkerEvent in
/-- Whatever a linker is handed and asked, and whatever else goes on: the source
of a URL is that of the first bundle which has it, for good.  Whoever asks for a
module and gets it gets the instance that was read from that source, and so does
everybody who asks later on.  A module is refused as not prefetched exactly when
no bundle so far has had its URL.  And where bundles agree, their order does not
matter for the sources. -/
theorem linker_steady (limits : Limits) (h : Host) :
    (∀ events url, (run limits h events).sources.get? url =
        (handed events).findSome? (·.source? url) ∧
      ∀ text, (run limits h events).sources.get? url = some text → ∀ later,
        (run limits h (events ++ later)).sources.get? url = some text) ∧
    (∀ events url i m, (Modules.get url).run h (run limits h events) = .ok i m →
      (∃ text, (run limits h events).sources.get? url = some text ∧
        ReadFrom limits h (events ++ [ask url]) url text i) ∧
      ∀ later, (Modules.get url).run h (run limits h (events ++ ask url :: later)) =
        .ok i (run limits h (events ++ ask url :: later))) ∧
    (∀ events url,
      (∃ m, (Modules.get url).run h (run limits h events) = .error (Modules.notPrefetched url) m) ↔
        ∀ b ∈ handed events, url ∉ b.urls) ∧
    ∀ events events', (handed events).Perm (handed events') → Agree (handed events) →
      ∀ url, (run limits h events).sources.get? url = (run limits h events').sources.get? url := by
  refine ⟨fun events url => ⟨sources_run limits h events url, fun text => sources_append⟩,
    fun events url i m hget => ?_, fun events url => run_get_eq_notPrefetched_iff,
    fun events events' hperm hagree url => ?_⟩
  · have hi := instances_of_ok hget
    obtain ⟨text, hread⟩ := exists_reading hi
    refine ⟨⟨text, ?_, hread⟩, fun later => ?_⟩
    · have hsource := hread.source
      rwa [run_snoc, sources_step, show (ask url).bundle? = none from rfl, Option.bind_none,
        Option.or_none] at hsource
    · have hlater := instances_append hi later
      rw [List.append_assoc] at hlater
      exact Modules.run_get_of_instance hlater
  · rw [sources_run, sources_run]
    exact hagree.findSome?_perm hperm url

/-- A bundle of one module. -/
def loneModule (url text : String) : Bundle := ⟨url, Table.empty.insert url text⟩

open LinkerEvent in
/-- A second bundle with another source for a URL comes too late: who asks again
gets the module that was read from the first one. -/
theorem linker_steady_late :
    let url := "http://[::1]/a.js"
    let first := loneModule url "import './b.js';"
    let second := loneModule url "import './c.js';"
    ∃ i m, (Modules.get url).run host (run .standard host [.add first]) = .ok i m ∧
      first.source? url = some "import './b.js';" ∧ second.source? url = some "import './c.js';" ∧
      ReadFrom .standard host [.add first, .ask url] url "import './b.js';" i ∧
      (linked "import './b.js';").length = 1 ∧
      (Modules.get url).run host (run .standard host [.add first, .ask url, .add second]) =
        .ok i (run .standard host [.add first, .ask url, .add second]) ∧
      ∃ m', (Modules.get "http://[::1]/b.js").run host (run .standard host [.add first]) =
        .error (Modules.notPrefetched "http://[::1]/b.js") m' := by
  intro url first second
  obtain ⟨hsources, hasked, hmissing, -⟩ := linker_steady .standard host
  have hfirst : first.source? url = some "import './b.js';" := by decide +kernel
  have hsource : (run .standard host [.add first]).sources.get? url = some "import './b.js';" := by
    rw [(hsources [.add first] url).1]
    exact congrArg (Option.or · none) hfirst
  have htree : (Source.moduleTree "import './b.js';").toOption.isSome = true := by decide +kernel
  obtain ⟨i, m, hget⟩ : ∃ i m,
      (Modules.get url).run host (run .standard host [.add first]) = .ok i m := by
    rw [Modules.run_get, hsource]
    show ∃ i m, (Modules.parse url "import './b.js';").run host _ = .ok i m
    unfold Modules.parse
    cases hread : Source.moduleTree "import './b.js';" with
    | error message =>
      rw [hread] at htree
      cases htree
    | ok tree => exact ⟨_, _, rfl⟩
  obtain ⟨⟨text, htext, hread⟩, hlater⟩ := hasked [.add first] url i m hget
  rw [hsource] at htext
  cases htext
  refine ⟨i, m, hget, hfirst, by decide +kernel, hread, by decide +kernel, hlater [.add second], ?_⟩
  refine (hmissing [.add first] "http://[::1]/b.js").mpr ?_
  show ∀ b ∈ [first], "http://[::1]/b.js" ∉ b.urls
  decide +kernel

end Playpen.Engine
