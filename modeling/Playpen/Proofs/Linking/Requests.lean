import Playpen.Proofs.Linking.Sources

/-!
# What a module asks for, scanned and linked

A module is read once to find what it imports, so that this is fetched, and once
by the engine, which then asks for it.  Both find the same literals in the same
statements, as they are written.  The scanner reports the text that is handed on
for a literal, the linker resolves what the engine shows of it, and for a
literal without a half of a surrogate pair kept apart these are one URL
(`linked_as_scanned`).  For any other literal they are not one text, and what is
fetched is not what the linker looks for (`linked_astray`).
-/

namespace Playpen

open Script (Written)
open Dependency Engine

/-- For every module text that both readers accept: the literals by which the
linker is asked are those that have been scanned, statement by statement; the
scanner reports the texts that are handed on for them, and the module asks the
linker for what the engine reads in them.  Whatever the escapes in a literal,
the linker's text for it is the reported one just where no half of a surrogate
pair is kept apart; and then the linker asks, among sources closed under
imports, for the URL that the reported text has been resolved to, which is
there. -/
theorem linked_as_scanned {url text : String} {specifiers : List String} {p : Script.Program}
    {s : Script.ParseState} (hscan : scanImports url text = .ok specifiers)
    (hread : Source.moduleTree text = .ok (p, s)) :
    (∀ st, importedBy st = Compile.source? st.bare) ∧
    linked text = scanned text ∧
    specifiers = distinct ((scanned text).map Written.handed) ∧
    (∀ origin index counter w,
      w ∈ (Compile.moduleOf origin url index counter p).1.requests ↔
        ∃ l ∈ linked text, l.wide = w) ∧
    ∀ l ∈ linked text,
      l.handed ∈ specifiers ∧ (l.handed = l.wide.display ↔ l.isTorn = false) ∧
      (l.isTorn = false → ∀ m : Machine, ImportClosed m.sources →
        m.sources.get? url = some text →
          ∃ base u, Url.parse url = .ok base ∧ resolveSpecifier base l.handed = .ok u ∧
            u.text ∈ m.sources.keys ∧ Modules.resolve (some url) l.wide = Modules.get u.text) := by
  have hsame : linked text = scanned text := linked_eq_scanned hscan hread
  have hspecifiers := specifiers_eq hscan
  refine ⟨importedBy_eq, hsame, hspecifiers, mem_requests_moduleOf hread url, ?_⟩
  intro l hl
  have hreported : l.handed ∈ specifiers := by
    rw [hspecifiers, mem_distinct, ← hsame]
    exact List.mem_map_of_mem hl
  refine ⟨hreported, l.handed_eq_display_iff, ?_⟩
  intro hwhole m hclosed htext
  obtain ⟨base, specifiers', hbase, hscan', hall⟩ := hclosed url text htext
  cases hscan.symm.trans hscan'
  obtain ⟨u, hu, hmem⟩ := hall l.handed hreported
  refine ⟨base, u, hbase, hu, hmem, Modules.resolve_eq_get hbase ?_⟩
  rw [← Written.handed_eq_display hwhole, hu]

/-- A module with two imports, one of a path with an escaped pair of halves. -/
def pairedImport : String := "import './b.js'; export * from './\\uD83D\\uDE00.js';"

/-- A site whose `a.js` has these imports; every other file is empty. -/
def pairedSite (url : String) : Reply :=
  .answered (.ok (if url = (localUrl "a.js").text then pairedImport else ""))

/-- Both readers accept it and see the same two literals in it, and the linker of
a sandbox that holds the site resolves what the scanner has reported. -/
theorem linked_as_scanned_paired :
    ∃ b p s, broughtFrom pairedSite (localUrl "a.js") = some b ∧
      Source.moduleTree pairedImport = .ok (p, s) ∧
      scanImports (localUrl "a.js").text pairedImport = .ok ["./b.js", "./😀.js"] ∧
      linked pairedImport = scanned pairedImport ∧ (linked pairedImport).length = 2 ∧
      ∀ l ∈ linked pairedImport, l.handed = l.wide.display ∧
        (∃ w ∈ (Compile.moduleOf ⟨none, #[]⟩ (localUrl "a.js").text 0 0 p).1.requests, l.wide = w) ∧
        ∃ u : Url, u.text ∈ (Sandbox.holding .standard [b]).sources.keys ∧
          Modules.resolve (some (localUrl "a.js").text) l.wide = Modules.get u.text := by
  let files := ["a.js", "b.js", "%F0%9F%98%80.js"].map localUrl
  have hbrought : (broughtFrom pairedSite (localUrl "a.js")).map (fun b =>
      (files.all (b.settles files), b.source? (localUrl "a.js").text)) =
      some (true, some pairedImport) := by decide +kernel
  have hok : ((Source.moduleTree pairedImport).toOption.isSome) = true := by decide +kernel
  have hscan : scanImports (localUrl "a.js").text pairedImport = .ok ["./b.js", "./😀.js"] := by
    decide +kernel
  have hwhole : ∀ l ∈ linked pairedImport, l.isTorn = false := by decide +kernel
  obtain ⟨b, hb, hfacts⟩ := Option.map_eq_some_iff.mp hbrought
  obtain ⟨hsettles, hsource⟩ := Prod.mk.inj hfacts
  have hfetched : b.Fetched :=
    .of_settles (fetchedFrom_of_broughtFrom hb) List.mem_cons_self hsettles
  have hclosed : ImportClosed (Sandbox.holding .standard [b]).sources :=
    ImportClosed.addBundle (s := Sandbox.new .standard) ImportClosed.empty hfetched
  have htext : (Sandbox.holding .standard [b]).sources.get? (localUrl "a.js").text =
      some pairedImport := by
    show (Sandbox.addBundle (Sandbox.new .standard) b).sources.get? _ = _
    rw [Sandbox.get?_sources_addBundle, hsource]
    rfl
  cases hread : Source.moduleTree pairedImport with
  | error message =>
    rw [hread] at hok
    cases hok
  | ok tree =>
    obtain ⟨p, s⟩ := tree
    obtain ⟨-, hsame, -, hrequests, hall⟩ := linked_as_scanned hscan hread
    refine ⟨b, p, s, hb, rfl, hscan, hsame, by decide +kernel, ?_⟩
    intro l hl
    obtain ⟨-, htexts, hserved⟩ := hall l hl
    obtain ⟨base, u, -, -, hmem, hresolve⟩ :=
      hserved (hwhole l hl) (Sandbox.holding .standard [b]).machine hclosed htext
    exact ⟨htexts.mpr (hwhole l hl), ⟨l.wide, (hrequests _ 0 0 l.wide).mpr ⟨l, hl, rfl⟩, rfl⟩, u,
      hmem, hresolve⟩

/-- What is handed on for the literal leads elsewhere than what the engine
resolves. -/
theorem linked_astray :
    ∃ (l : Written) (u v : Url),
      scanImports (localUrl "a.js").text tornImport = .ok [l.handed] ∧
      linked tornImport = [l] ∧
      resolveSpecifier (localUrl "a.js") l.handed = .ok u ∧
      Modules.resolve (some (localUrl "a.js").text) l.wide = Modules.get v.text ∧
      u.text ≠ v.text := by
  let v : Url := { localUrl "" with path := .segments ["", "uD800.js"] }
  have hv : v.text = "http://[::1]//uD800.js" := by decide +kernel
  refine ⟨tornLiteral, localUrl "%EF%BF%BDd800.js", v, by decide +kernel, by decide +kernel,
    by decide +kernel, ?_, by decide +kernel⟩
  rw [hv]
  exact resolve_tornLiteral

end Playpen
