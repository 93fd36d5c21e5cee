import Playpen.Proofs.Linking.Statements
import Playpen.Proofs.Walk.Pursuit
import Mathlib.Logic.Relation

/-!
# The sources a sandbox holds

A sandbox is handed the bundles one after the other, and a URL that several of
them hold keeps the source of the first.  A module may thus be linked with
another bundle's version of what it imports, and go on from there along imports
that its own bundle knows nothing of.  `ImportClosed` is what holds all the
same: whatever a source in the table imports is in the table.

The bundles of finished walks are closed in themselves (`Bundle.Fetched.within`),
adding one of them keeps the table closed (`ImportClosed.addBundle`), and so
does any sequence of them.  The walk has resolved imports from URLs, while the
engine only has their texts; the two agree where a text reads back as the URL
it is the text of.

The walk follows the texts that the scanner hands on for the literals of a
module, the engine those that it shows of them, and these are the same only
where no half of a surrogate pair is kept apart (`imports_prefetched`).
-/

namespace Playpen

open Dependency
open Engine (Host M Machine)
open Playpen.Text (Wide)

/-! ## What a walk goes through -/

namespace Dependency

/-- The URLs met from `entry` along static imports, as a bundle has the
sources. -/
inductive Bundle.Reaches (b : Bundle) (entry : Url) : Url → Prop where
  | entry : b.Reaches entry entry
  | imported {u v : Url} {text : String} :
      b.Reaches entry u → b.source? u.text = some text → Imports (u, text) v →
        b.Reaches entry v

/-- A walk from `entry` has finished with `b`: under some name and limit, and
whatever the network has said meanwhile. -/
def Bundle.FetchedFrom (b : Bundle) (entry : Url) : Prop :=
  ∃ name limit networks, (pursue (Walk.start name entry limit) networks).progress = .finished b

/-- Parsing what a URL is written as gives the URL again, for every URL met from
`entry`. -/
def Bundle.ReadableFrom (b : Bundle) (entry : Url) : Prop :=
  ∀ u, b.Reaches entry u → Url.parse u.text = .ok u

/-- A bundle that a finished walk has brought, over URLs that can be read back. -/
def Bundle.Fetched (b : Bundle) : Prop :=
  ∃ entry, b.FetchedFrom entry ∧ b.ReadableFrom entry

theorem Bundle.FetchedFrom.gathers {b : Bundle} {entry : Url} (h : b.FetchedFrom entry) :
    ∃ limit modules, b.Gathers entry limit modules := by
  obtain ⟨name, limit, networks, hfinished⟩ := h
  obtain ⟨-, hagrees⟩ := pursue_agrees name entry limit networks
  rw [hfinished] at hagrees
  obtain ⟨modules, hgathers, -, -⟩ := hagrees
  exact ⟨limit, modules, hgathers⟩

section

variable {b : Bundle} {entry : Url} {limit : Nat} {modules : List (Url × String)}

theorem Bundle.Gathers.source?_eq_some_iff (h : b.Gathers entry limit modules)
    {url text : String} :
    b.source? url = some text ↔ ∃ m ∈ modules, m.1.text = url ∧ m.2 = text := by
  unfold Bundle.source?
  rw [← Table.mem_entries_iff, h.sources_eq, List.mem_map]
  constructor
  · rintro ⟨m, hm, heq⟩
    exact ⟨m, hm, (Prod.mk.inj heq).1, (Prod.mk.inj heq).2⟩
  · rintro ⟨m, hm, rfl, rfl⟩
    exact ⟨m, hm, rfl⟩

/-- Every module of the bundle is met from the entry: the induction is on its
place, since a module that imports it stands before it. -/
theorem Bundle.Gathers.reaches (h : b.Gathers entry limit modules) :
    ∀ (i : Nat) (m : Url × String), modules[i]? = some m → b.Reaches entry m.1 := by
  intro i
  induction i using Nat.strongRecOn with
  | _ i ih =>
    intro m hm
    have hmet : (met modules [])[i]? = some m.1 := by
      rw [met, List.append_nil, List.getElem?_map, hm]
      rfl
    cases i with
    | zero =>
      have hfirst := h.explored.first
      rw [List.head?_eq_getElem?, hmet] at hfirst
      rw [Option.some.inj hfirst]
      exact .entry
    | succ i =>
      obtain ⟨j, m', hj, hm', himports⟩ := h.explored.minimal i m.1 hmet
      refine .imported (ih j (by omega) m' hm') ?_ himports
      exact h.source?_eq_some_iff.mpr ⟨m', List.mem_of_getElem? hm', rfl, rfl⟩

theorem Bundle.Gathers.entry_mem (h : b.Gathers entry limit modules) : b.entry ∈ b.urls := by
  rw [h.urls_eq, h.entry_eq]
  exact List.mem_map_of_mem (List.mem_of_mem_head? h.explored.first)

end

/-- The engine's view of a fetched bundle: a URL of it is read back, and the
imports of its source, resolved from there, stay in the bundle. -/
theorem Bundle.Fetched.within {b : Bundle} (h : b.Fetched) {url text : String}
    (hsource : b.source? url = some text) :
    ∃ base, Url.parse url = .ok base ∧ base.text = url ∧ ImportsWithin (base, text) b.urls := by
  obtain ⟨entry, hfetched, hreadable⟩ := h
  obtain ⟨limit, modules, hgathers⟩ := hfetched.gathers
  obtain ⟨m, hm, rfl, rfl⟩ := hgathers.source?_eq_some_iff.mp hsource
  obtain ⟨i, hi⟩ := List.mem_iff_getElem?.mp hm
  refine ⟨m.1, hreadable m.1 (hgathers.reaches i m hi), rfl, ?_⟩
  rw [hgathers.urls_eq]
  exact hgathers.explored.closed m hm

theorem Bundle.Fetched.entry_mem {b : Bundle} (h : b.Fetched) : b.entry ∈ b.urls := by
  obtain ⟨entry, hfetched, -⟩ := h
  obtain ⟨limit, modules, hgathers⟩ := hfetched.gathers
  exact hgathers.entry_mem

end Dependency

/-! ## Adding bundles -/

namespace Engine.Modules

theorem get?_addSource (t : Table String) (url text k : String) :
    (addSource t url text).get? k = (t.get? k).or (if k = url then some text else none) := by
  unfold addSource
  split
  · rename_i hknown
    by_cases hk : k = url
    · obtain ⟨held, hheld⟩ := Table.mem_keys_iff.mp (Table.contains_iff.mp hknown)
      rw [hk, hheld]
      rfl
    · rw [if_neg hk, Option.or_none]
  · rename_i hnew
    have hnone : t.get? url = none :=
      Table.get?_eq_none_iff.mpr fun hmem => hnew (Table.contains_iff.mpr hmem)
    rw [Table.get?_insert]
    by_cases hk : k = url
    · rw [if_pos hk, if_pos hk, hk, hnone]
      rfl
    · rw [if_neg hk, if_neg hk, Option.or_none]

theorem get?_foldl_addSource (entries : List (String × String)) (t : Table String)
    (k : String) :
    (entries.foldl (fun t e => addSource t e.1 e.2) t).get? k
      = (t.get? k).or (entries.lookup k) := by
  induction entries generalizing t with
  | nil =>
    show t.get? k = (t.get? k).or none
    rw [Option.or_none]
  | cons e rest ih =>
    obtain ⟨url, text⟩ := e
    rw [List.foldl_cons, ih, get?_addSource, Option.or_assoc, List.lookup_cons]
    congr 1
    by_cases hk : k = url
    · rw [if_pos hk, beq_iff_eq.mpr hk]
      rfl
    · rw [if_neg hk, beq_eq_false_iff_ne.mpr hk]
      rfl

end Engine.Modules

namespace Sandbox

def sources (s : Sandbox) : Table String := s.machine.sources

/-- A sandbox that has been handed bundles, in order. -/
def holding (limits : Limits) (bundles : List Bundle) : Sandbox :=
  bundles.foldl addBundle (new limits)

/-- The first source of a URL wins. -/
theorem get?_sources_addBundle (s : Sandbox) (b : Bundle) (url : String) :
    (s.addBundle b).sources.get? url = (s.sources.get? url).or (b.source? url) :=
  Engine.Modules.get?_foldl_addSource b.sources.entries s.sources url

theorem mem_sources_addBundle {s : Sandbox} {b : Bundle} {url : String} :
    url ∈ (s.addBundle b).sources.keys ↔ url ∈ s.sources.keys ∨ url ∈ b.urls := by
  rw [Table.mem_keys_iff, get?_sources_addBundle, Table.mem_keys_iff]
  show _ ↔ _ ∨ url ∈ b.sources.keys
  rw [Table.mem_keys_iff]
  show _ ↔ _ ∨ ∃ v, b.source? url = some v
  cases s.sources.get? url <;> simp

end Sandbox

/-- Whatever a source in the table imports is in the table: its URL can be read
back, its text can be scanned, and each specifier found there resolves to a
URL that the table holds. -/
def ImportClosed (t : Table String) : Prop :=
  ∀ url text, t.get? url = some text →
    ∃ base specifiers, Url.parse url = .ok base ∧ scanImports url text = .ok specifiers ∧
      ∀ s ∈ specifiers, ∃ u, resolveSpecifier base s = .ok u ∧ u.text ∈ t.keys

theorem ImportClosed.empty : ImportClosed Table.empty := by
  intro url text h
  cases h

/-- A fetched bundle keeps the table closed.  A URL that was held before keeps
its source, whose imports were held before; a new one has the bundle's, whose
imports the bundle brings along unless they were held before. -/
theorem ImportClosed.addBundle {s : Sandbox} {b : Bundle} (h : ImportClosed s.sources)
    (hb : b.Fetched) : ImportClosed (s.addBundle b).sources := by
  intro url text htext
  rw [Sandbox.get?_sources_addBundle] at htext
  rcases Option.or_eq_some_iff.mp htext with hold | ⟨-, hnew⟩
  · obtain ⟨base, specifiers, hparse, hscan, hall⟩ := h url text hold
    refine ⟨base, specifiers, hparse, hscan, ?_⟩
    intro specifier hs
    obtain ⟨u, hu, hmem⟩ := hall specifier hs
    exact ⟨u, hu, Sandbox.mem_sources_addBundle.mpr (.inl hmem)⟩
  · obtain ⟨base, hparse, rfl, specifiers, hscan, hall⟩ := hb.within hnew
    refine ⟨base, specifiers, hparse, hscan, ?_⟩
    intro specifier hs
    obtain ⟨u, hu, hmem⟩ := hall specifier hs
    exact ⟨u, hu, Sandbox.mem_sources_addBundle.mpr (.inr hmem)⟩

theorem ImportClosed.foldl_addBundle {s : Sandbox} {bundles : List Bundle}
    (h : ImportClosed s.sources) (hall : ∀ b ∈ bundles, b.Fetched) :
    ImportClosed (bundles.foldl Sandbox.addBundle s).sources := by
  induction bundles generalizing s with
  | nil => exact h
  | cons b rest ih =>
    rw [List.forall_mem_cons] at hall
    exact ih (h.addBundle hall.1) hall.2

theorem Sandbox.mem_sources_foldl_addBundle {s : Sandbox} {bundles : List Bundle}
    {url : String} :
    url ∈ (bundles.foldl Sandbox.addBundle s).sources.keys ↔
      url ∈ s.sources.keys ∨ ∃ b ∈ bundles, url ∈ b.urls := by
  induction bundles generalizing s with
  | nil => simp
  | cons b rest ih =>
    rw [List.foldl_cons, ih, Sandbox.mem_sources_addBundle, or_assoc]
    simp

/-! ## What the engine is served -/

namespace Engine

/-- A request for a module that is served: it ends with the module, or with the
engine's complaint that the module's text is none.  Link errors, which are
thrown as texts, do not occur. -/
def Served (x : M Nat) (m : Machine) : Prop :=
  ∀ h, (∃ i m', (x h m).val = .ok i m') ∨
    ∃ message m', (x h m).val = .error (.raised .syntaxError message none) m'

theorem served_pure (i : Nat) (m : Machine) : Served (pure i) m :=
  fun _ => .inl ⟨i, m, rfl⟩

theorem served_look_bind {α : Type} {f : Machine → α} {g : α → M Nat} {m : Machine} :
    Served (M.look f >>= g) m ↔ Served (g (f m)) m :=
  Iff.rfl

namespace Modules

/-- The complaint about a URL that no bundle had. -/
def notPrefetched (url : String) : Engine.Thrown := .value (.str s!"module {url} was not prefetched")

/-- Resolving a specifier whose URL is known is asking for the module there. -/
theorem resolve_eq_get {url : String} {w : Wide} {base u : Url}
    (hbase : Url.parse url = .ok base) (hu : resolveSpecifier base w.display = .ok u) :
    resolve (some url) w = get u.text := by
  simp only [resolve, hbase, hu]

/-- Where no bundle had a URL, asking for it ends in the complaint. -/
theorem val_get_of_none {url : String} {m : Machine} (hi : m.instances.get? url = none)
    (hsource : m.sources.get? url = none) (h : Host) :
    (get url h m).val = .error (notPrefetched url) m := by
  have hlook : ∀ {β : Type} (f : Machine → β) (g : β → M Nat),
      (M.look f >>= g) h m = g (f m) h m := fun _ _ => rfl
  unfold get
  rw [hlook, hi]
  dsimp only
  rw [hlook, hsource]
  rfl

theorem served_parse (url text : String) (m : Machine) : Served (parse url text) m := by
  intro h
  unfold parse
  cases Source.moduleTree text with
  | error message => exact .inr ⟨message, m, rfl⟩
  | ok tree => exact .inl ⟨_, _, rfl⟩

/-- The linker serves every URL it holds a source of. -/
theorem served_get {url : String} {m : Machine} (hurl : url ∈ m.sources.keys) :
    Served (get url) m := by
  obtain ⟨text, htext⟩ := Table.mem_keys_iff.mp hurl
  unfold get
  rw [served_look_bind]
  cases m.instances.get? url with
  | some i => exact served_pure i m
  | none =>
    show Served (M.look (fun m => m.sources.get? url) >>= _) m
    rw [served_look_bind, htext]
    exact served_parse url text m

end Modules

end Engine

/-! ## Following imports -/

/-- In a table of sources, the module at `url` statically imports the one at
`next`. -/
def LeadsTo (t : Table String) (url next : String) : Prop :=
  ∃ text base specifiers, t.get? url = some text ∧ Url.parse url = .ok base ∧
    scanImports url text = .ok specifiers ∧
      ∃ s ∈ specifiers, ∃ u, resolveSpecifier base s = .ok u ∧ u.text = next

/-- Imports lead from keys to keys. -/
theorem ImportClosed.mem_of_reflTransGen {t : Table String} (h : ImportClosed t)
    {url url' : String} (hurl : url ∈ t.keys)
    (hpath : Relation.ReflTransGen (LeadsTo t) url url') : url' ∈ t.keys := by
  induction hpath with
  | refl => exact hurl
  | tail _ hstep _ =>
    obtain ⟨text, base, specifiers, htext, hparse, hscan, s, hs, u, hu, rfl⟩ := hstep
    obtain ⟨base', specifiers', hparse', hscan', hall⟩ := h _ text htext
    rw [hparse] at hparse'
    rw [hscan] at hscan'
    cases hparse'
    cases hscan'
    obtain ⟨u', hu', hmem⟩ := hall s hs
    rw [hu] at hu'
    cases hu'
    exact hmem

/-- What a scanned specifier stands for, the engine asks for, and the table has
it: the engine resolves it as the walk has done. -/
theorem ImportClosed.exists_leadsTo {t : Table String} (h : ImportClosed t)
    {url text : String} {specifiers : List String} (htext : t.get? url = some text)
    (hscan : scanImports url text = .ok specifiers) {w : Wide} (hw : w.display ∈ specifiers) :
    ∃ next, LeadsTo t url next ∧ next ∈ t.keys ∧
      Engine.Modules.resolve (some url) w = Engine.Modules.get next := by
  obtain ⟨base, specifiers', hparse, hscan', hall⟩ := h url text htext
  rw [hscan] at hscan'
  cases hscan'
  obtain ⟨u, hu, hmem⟩ := hall w.display hw
  exact ⟨u.text, ⟨text, base, specifiers, htext, hparse, hscan, w.display, hw, u, hu, rfl⟩, hmem,
    Engine.Modules.resolve_eq_get hparse hu⟩

/-- Whatever bundles of finished walks a sandbox is handed, in whatever order
and however they disagree, its sources are closed under static imports.  Hence
an engine that follows imports from the entry of any of them, with these
sources and in whatever state it is, is served every module it asks for by a
literal in which no half of a surrogate pair is kept apart, and what it is
served is the next module on its way. -/
theorem imports_prefetched (limits : Limits) (bundles : List Bundle)
    (hfetched : ∀ b ∈ bundles, ∃ entry, b.FetchedFrom entry ∧ b.ReadableFrom entry) :
    ImportClosed (Sandbox.holding limits bundles).sources ∧
    ∀ b ∈ bundles, ∀ url,
      Relation.ReflTransGen (LeadsTo (Sandbox.holding limits bundles).sources) b.entry url →
      ∀ m : Machine, m.sources = (Sandbox.holding limits bundles).sources →
        Engine.Served (Engine.Modules.get url) m ∧
        ∃ text, m.sources.get? url = some text ∧
          ∀ p s, Engine.Source.moduleTree text = .ok (p, s) →
            (∀ origin index counter w,
              w ∈ (Engine.Compile.moduleOf origin url index counter p).1.requests ↔
                ∃ l ∈ Engine.linked text, l.wide = w) ∧
            ∀ l ∈ Engine.linked text, l.isTorn = false →
              Engine.Served (Engine.Modules.resolve (some url) l.wide) m ∧
              ∃ next, LeadsTo m.sources url next ∧
                Engine.Modules.resolve (some url) l.wide = Engine.Modules.get next := by
  have hclosed : ImportClosed (Sandbox.holding limits bundles).sources :=
    ImportClosed.foldl_addBundle ImportClosed.empty hfetched
  refine ⟨hclosed, ?_⟩
  intro b hb url hpath m hm
  have hentry : b.entry ∈ (Sandbox.holding limits bundles).sources.keys :=
    Sandbox.mem_sources_foldl_addBundle.mpr
      (.inr ⟨b, hb, Bundle.Fetched.entry_mem (hfetched b hb)⟩)
  have hurl := hclosed.mem_of_reflTransGen hentry hpath
  rw [← hm] at hclosed hurl
  obtain ⟨text, htext⟩ := Table.mem_keys_iff.mp hurl
  obtain ⟨base, specifiers, -, hscan, -⟩ := hclosed url text htext
  refine ⟨Engine.Modules.served_get hurl, text, htext, fun p s hread => ⟨?_, ?_⟩⟩
  · exact Engine.mem_requests_moduleOf hread url
  intro l hl hwhole
  have hw : l.wide.display ∈ specifiers := display_mem_specifiers hscan hread hl hwhole
  obtain ⟨next, hleads, hnext, hresolve⟩ := hclosed.exists_leadsTo htext hscan hw
  rw [hresolve]
  exact ⟨Engine.Modules.served_get hnext, next, hleads, rfl⟩

/-! ## Two bundles that disagree -/

/-- The module at `u`, as a bundle has it, imports URLs among `us` only, and `u`
is read back from its text. -/
def Dependency.Bundle.settles (b : Bundle) (us : List Url) (u : Url) : Bool :=
  (match Url.parse u.text with
    | .ok v => v = u
    | .error _ => false) &&
  match b.source? u.text with
  | none => true
  | some text =>
    match scanImports u.text text with
    | .error _ => true
    | .ok specifiers => specifiers.all fun s =>
      match resolveSpecifier u s with
      | .error _ => true
      | .ok v => v ∈ us

/-- That a bundle is fetched can be checked on a list of URLs that imports do
not leave. -/
theorem Dependency.Bundle.Fetched.of_settles {b : Bundle} {entry : Url} {us : List Url}
    (hfetched : b.FetchedFrom entry) (hentry : entry ∈ us)
    (hsettles : us.all (b.settles us) = true) : b.Fetched := by
  have hmem : ∀ u, b.Reaches entry u → u ∈ us := by
    intro u hu
    induction hu with
    | entry => exact hentry
    | @imported u v text _ htext himports ih =>
      obtain ⟨specifiers, hscan, s, hs, hres⟩ := himports
      have hu := (Bool.and_eq_true_iff.mp (List.all_eq_true.mp hsettles u ih)).2
      rw [htext] at hu
      simp only [hscan] at hu
      have hv := List.all_eq_true.mp hu s hs
      simp only [hres] at hv
      exact of_decide_eq_true hv
  refine ⟨entry, hfetched, ?_⟩
  intro u hu
  have hread := (Bool.and_eq_true_iff.mp (List.all_eq_true.mp hsettles u (hmem u hu))).1
  cases hparse : Url.parse u.text with
  | error e =>
    rw [hparse] at hread
    cases hread
  | ok v =>
    rw [hparse] at hread
    rw [of_decide_eq_true hread]

/-- A file of a site on this machine. -/
def localUrl (file : String) : Url :=
  { scheme := "http", host := some (.ipv6 [0, 0, 0, 0, 0, 0, 0, 1]), path := .segments [file] }

/-- A site as it was: `a.js` imports `c.js`, which imports nothing. -/
def siteBefore (url : String) : Reply :=
  .answered (.ok (if url = (localUrl "a.js").text then "import './c.js';" else ""))

/-- The site later on: `c.js` has come to import `e.js`. -/
def siteAfter (url : String) : Reply :=
  .answered <| .ok <|
    if url = (localUrl "d.js").text then "import './c.js';"
    else if url = (localUrl "c.js").text then "export * from './e.js';"
    else ""

/-- What a walk over a site brings back. -/
def broughtFrom (site : String → Reply) (entry : Url) : Option Bundle :=
  match (pursue (Walk.start "" entry 3) [site]).progress with
  | .finished b => some b
  | _ => none

theorem fetchedFrom_of_broughtFrom {site : String → Reply} {entry : Url} {b : Bundle}
    (h : broughtFrom site entry = some b) : b.FetchedFrom entry := by
  unfold broughtFrom at h
  split at h
  · rename_i hfinished
    cases h
    exact ⟨"", 3, [site], hfinished⟩
  · cases h

/-- Two bundles that disagree on `c.js`: the later one comes first, so `a.js` is
linked with a `c.js` whose import its own bundle lacks. -/
theorem imports_prefetched_disagreeing :
    ∃ later earlier, broughtFrom siteAfter (localUrl "d.js") = some later ∧
      broughtFrom siteBefore (localUrl "a.js") = some earlier ∧
      later.source? (localUrl "c.js").text ≠ earlier.source? (localUrl "c.js").text ∧
      (localUrl "e.js").text ∉ earlier.urls ∧
      (∀ b ∈ [later, earlier], ∃ entry, b.FetchedFrom entry ∧ b.ReadableFrom entry) ∧
      ImportClosed (Sandbox.holding .standard [later, earlier]).sources := by
  have hlater : (broughtFrom siteAfter (localUrl "d.js")).map (fun b =>
      (["d.js", "c.js", "e.js"].map localUrl).all
        (b.settles (["d.js", "c.js", "e.js"].map localUrl))) = some true := by
    decide +kernel
  have hearlier : (broughtFrom siteBefore (localUrl "a.js")).map (fun b =>
      (["a.js", "c.js"].map localUrl).all
        (b.settles (["a.js", "c.js"].map localUrl))) = some true := by
    decide +kernel
  have hurls : (broughtFrom siteBefore (localUrl "a.js")).map Bundle.urls =
      some (["a.js", "c.js"].map fun file => (localUrl file).text) := by
    decide +kernel
  have hdiffer : (broughtFrom siteAfter (localUrl "d.js")).bind (·.source? (localUrl "c.js").text) ≠
      (broughtFrom siteBefore (localUrl "a.js")).bind (·.source? (localUrl "c.js").text) := by
    decide +kernel
  obtain ⟨later, hafter, hl⟩ := Option.map_eq_some_iff.mp hlater
  obtain ⟨earlier, hbefore, he⟩ := Option.map_eq_some_iff.mp hearlier
  rw [hafter, hbefore] at hdiffer
  rw [hbefore, Option.map_some, Option.some.injEq] at hurls
  have hlacks : (localUrl "e.js").text ∉ earlier.urls := by
    rw [hurls]
    decide +kernel
  have hfetched : ∀ b ∈ [later, earlier],
      ∃ entry, b.FetchedFrom entry ∧ b.ReadableFrom entry := by
    intro b hb
    rcases List.mem_pair.mp hb with rfl | rfl
    · exact Bundle.Fetched.of_settles (fetchedFrom_of_broughtFrom hafter) List.mem_cons_self hl
    · exact Bundle.Fetched.of_settles (fetchedFrom_of_broughtFrom hbefore) List.mem_cons_self he
  exact ⟨later, earlier, hafter, hbefore, hdiffer, hlacks, hfetched,
    (imports_prefetched .standard [later, earlier] hfetched).1⟩

/-! ## An import that goes astray -/

/-- An import by a literal with half of a pair in it. -/
def tornImport : String := "import './\\uD800.js';"

def tornLiteral : Script.Written :=
  ⟨[.char '.', .char '/', .unit 0xD800, .char '.', .char 'j', .char 's']⟩

/-- What the engine asks for by the literal leads out of the directory. -/
theorem resolve_tornLiteral :
    Engine.Modules.resolve (some (localUrl "a.js").text) tornLiteral.wide =
      Engine.Modules.get "http://[::1]//uD800.js" := by
  have hbase : Url.parse (localUrl "a.js").text = .ok (localUrl "a.js") := by decide +kernel
  have hdisplay : tornLiteral.wide.display = "./\\uD800.js" := by
    rw [← String.toList_inj, Script.Written.toList_display_wide]
    decide
  let u : Url := { localUrl "" with path := .segments ["", "uD800.js"] }
  have hu : resolveSpecifier (localUrl "a.js") tornLiteral.wide.display = .ok u := by
    rw [hdisplay]
    decide +kernel
  have htext : u.text = "http://[::1]//uD800.js" := by decide +kernel
  rw [Engine.Modules.resolve_eq_get hbase hu, htext]

/-- A site whose `a.js` imports so; every other file is empty. -/
def tornSite (url : String) : Reply :=
  .answered (.ok (if url = (localUrl "a.js").text then tornImport else ""))

/-- The walk fetches what the text that is handed on for the literal stands for,
and the engine looks for a module that was not prefetched. -/
theorem imports_prefetched_torn :
    ∃ b, broughtFrom tornSite (localUrl "a.js") = some b ∧
      (∃ entry, b.FetchedFrom entry ∧ b.ReadableFrom entry) ∧
      b.entry = (localUrl "a.js").text ∧ b.source? b.entry = some tornImport ∧
      b.urls = ["a.js", "%EF%BF%BDd800.js"].map (fun file => (localUrl file).text) ∧
      Engine.linked tornImport = [tornLiteral] ∧
      ∀ h, (Engine.Modules.resolve (some b.entry) tornLiteral.wide h
          (Sandbox.holding .standard [b]).machine).val =
        .error (Engine.Modules.notPrefetched "http://[::1]//uD800.js")
          (Sandbox.holding .standard [b]).machine := by
  let files := ["a.js", "%EF%BF%BDd800.js"].map localUrl
  have hbrought : (broughtFrom tornSite (localUrl "a.js")).map (fun b =>
      (files.all (b.settles files), b.entry, b.urls, b.source? (localUrl "a.js").text,
        b.source? "http://[::1]//uD800.js")) =
      some (true, (localUrl "a.js").text, files.map Url.text, some tornImport, none) := by
    decide +kernel
  obtain ⟨b, hb, hfacts⟩ := Option.map_eq_some_iff.mp hbrought
  simp only [Prod.mk.injEq] at hfacts
  obtain ⟨hsettles, hentry, hurls, hsource, hmissing⟩ := hfacts
  refine ⟨b, hb, Bundle.Fetched.of_settles (fetchedFrom_of_broughtFrom hb) List.mem_cons_self
    hsettles, hentry, by rwa [hentry], hurls, by decide +kernel, fun h => ?_⟩
  rw [hentry, resolve_tornLiteral]
  refine Engine.Modules.val_get_of_none rfl ?_ h
  show (Sandbox.addBundle (Sandbox.new .standard) b).sources.get? _ = none
  rw [Sandbox.get?_sources_addBundle, hmissing]
  rfl

end Playpen
