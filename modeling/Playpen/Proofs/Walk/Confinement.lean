import Playpen.Proofs.Url.Origin
import Playpen.Proofs.Walk.Ending
import Playpen.Proofs.Walk.Reachable

/-!
# How far specifiers lead

The specifiers of a module are chosen by whoever wrote it.  A bare name cannot
leave the module's origin, whatever characters it is made of, since it stands
behind a path (`resolveSpecifier_bare`).  A path can, but only if it begins with
two slashes (`resolveSpecifier_path`).  Only a whole URL can lead to another
scheme, and then it is refused; so a walk that begins on the web stays there.
-/

namespace Playpen.Dependency

variable {referrer u : Url} {s : String}

/-! ## Paths -/

/-- A path begins with a character that nothing is dropped for, and that begins
no scheme. -/
theorem exists_of_isPath (h : isPath s = true) :
    ∃ c rest, s.toList = c :: rest ∧ (c = '/' ∨ c = '.') := by
  have hbegins : ∀ {c : Char} {more : List Char}, (c :: more) <+: s.toList →
      (c = '/' ∨ c = '.') → ∃ c rest, s.toList = c :: rest ∧ (c = '/' ∨ c = '.') := by
    rintro c more ⟨rest, hrest⟩ hc
    exact ⟨c, more ++ rest, hrest.symm, hc⟩
  unfold isPath at h
  rw [Bool.or_eq_true, Bool.or_eq_true, String.startsWith_string_iff,
    String.startsWith_string_iff, String.startsWith_string_iff] at h
  rcases h with (h | h) | h
  · exact hbegins h (Or.inl rfl)
  · exact hbegins h (Or.inr rfl)
  · exact hbegins h (Or.inr rfl)

/-- How a reference that begins like a path is read. -/
theorem resolve_of_path (referrer : Url) {c : Char} {rest : List Char} (h : s.toList = c :: rest)
    (hc : c = '/' ∨ c = '.') :
    Url.parse s = .error .noBase ∧
      (referrer.IsRead → referrer.IsWeb →
        referrer.join s = Url.readRelative referrer (Url.cleaned s)) ∧
      (Url.LeavesBase (Url.cleaned s) ↔ Url.BeginsWithTwoSlashes s) := by
  have hvisible : 0x20 < c.toNat := by
    rcases hc with rfl | rfl
    · decide
    · decide
  have hletter : Text.isAsciiLetter c = false ∧ c ≠ '#' := by
    rcases hc with rfl | rfl
    · decide
    · decide
  obtain ⟨⟨more, hmore⟩, hslashes⟩ := Url.cleaned_of_visible h hvisible
  have hscheme : Url.cutScheme (Url.cleaned s) = none := by
    rw [hmore, Url.cutScheme, hletter.1]
    rfl
  refine ⟨?_, ?_, hslashes⟩
  · rw [Url.parse, Url.resolve, hscheme]
  · intro hread hweb
    have hhash : (Url.cleaned s).head? ≠ some '#' := by
      rw [hmore]
      simpa using hletter.2
    rw [Url.join, Url.resolve, hscheme]
    dsimp only
    rw [if_neg hhash, hread.isBase hweb, if_neg hweb.ne_file]
    rfl

/-- A path is read against the module's own URL. -/
theorem resolveSpecifier_isPath (hread : referrer.IsRead) (hweb : referrer.IsWeb)
    (h : isPath s = true) :
    resolveSpecifier referrer s =
      match Url.readRelative referrer (Url.cleaned s) with
      | .ok u => .ok u
      | .error _ => .error (.unresolvable s referrer.text) := by
  obtain ⟨c, rest, hbegins, hc⟩ := exists_of_isPath h
  obtain ⟨hparse, hjoin, -⟩ := resolve_of_path referrer hbegins hc
  rw [← hjoin hread hweb]
  unfold resolveSpecifier
  dsimp only
  rw [hparse]
  dsimp only
  exact if_pos h

/-- A path leaves its module's origin only if it begins with two slashes, and
then all it has to do to resolve is to name an authority. -/
theorem resolveSpecifier_path (hread : referrer.IsRead) (hweb : referrer.IsWeb)
    (h : isPath s = true) :
    (¬ Url.BeginsWithTwoSlashes s →
      ∃ u, resolveSpecifier referrer s = .ok u ∧ u.origin = referrer.origin) ∧
    (Url.BeginsWithTwoSlashes s →
      ((∃ u, resolveSpecifier referrer s = .ok u) ↔ Url.ValidAuthority referrer.scheme
        (Url.authorityText (Url.behindSlashes (Url.cleaned s))))) := by
  obtain ⟨c, rest, hbegins, hc⟩ := exists_of_isPath h
  obtain ⟨-, -, hslashes⟩ := resolve_of_path referrer hbegins hc
  rw [resolveSpecifier_isPath hread hweb h]
  constructor
  · intro hstays
    obtain ⟨u, hu, horigin⟩ := Url.readRelative_origin hweb.isSpecial (hslashes.not.mpr hstays)
    exact ⟨u, by rw [hu], horigin⟩
  · intro hleaves
    rw [Url.readRelative_leaves hweb.isSpecial (hslashes.mpr hleaves),
      ← Url.readAuthority_ok_iff hweb.isSpecial]
    cases Url.readAuthority referrer.scheme (Url.behindSlashes (Url.cleaned s)) with
    | ok u => simp
    | error e => simp

/-! ## Names -/

/-- The bare name of a package: neither a whole URL nor a path. -/
def IsBare (s : String) : Prop :=
  s ≠ "" ∧ (∀ u, Url.parse s ≠ .ok u) ∧ isPath s = false

/-- A bare name stands for something on its module's origin. -/
theorem resolveSpecifier_bare (hread : referrer.IsRead) (hweb : referrer.IsWeb) (h : IsBare s) :
    ∃ u, resolveSpecifier referrer s = .ok u ∧ u.origin = referrer.origin := by
  obtain ⟨hne, hparse, hpath⟩ := h
  have hbegins : ("/npm/" ++ s ++ "/+esm").toList =
      '/' :: 'n' :: ("pm/".toList ++ s.toList ++ "/+esm".toList) := by
    simp
  obtain ⟨-, hjoin, hslashes⟩ := resolve_of_path referrer hbegins (Or.inl rfl)
  have hstays : ¬ Url.BeginsWithTwoSlashes ("/npm/" ++ s ++ "/+esm") := by
    unfold Url.BeginsWithTwoSlashes Url.flattened
    rw [hbegins]
    simp
  obtain ⟨u, hu, horigin⟩ := Url.readRelative_origin hweb.isSpecial (hslashes.not.mpr hstays)
  refine ⟨u, ?_, horigin⟩
  unfold resolveSpecifier
  cases hwhole : Url.parse s with
  | ok v => exact absurd hwhole (hparse v)
  | error e =>
    dsimp only
    rw [hpath, if_neg (by decide), if_neg hne, hjoin hread hweb, hu]

/-! ## All specifiers -/

/-- A whole URL stands for itself, if it is one of the web. -/
theorem resolveSpecifier_whole (h : Url.parse s = .ok u) :
    resolveSpecifier referrer s =
      if u.IsWeb then .ok u else .error (.unresolvable s referrer.text) := by
  unfold resolveSpecifier
  rw [h]
  rfl

theorem resolveSpecifier_empty :
    resolveSpecifier referrer "" = .error (.unresolvable "" referrer.text) := rfl

/-- A specifier is one of four things. -/
theorem specifier_cases (s : String) :
    s = "" ∨ (∃ u, Url.parse s = .ok u) ∨ isPath s = true ∨ IsBare s := by
  by_cases hempty : s = ""
  · exact .inl hempty
  · by_cases hwhole : ∃ u, Url.parse s = .ok u
    · exact .inr (.inl hwhole)
    · cases hpath : isPath s with
      | true => exact .inr (.inr (.inl rfl))
      | false => exact .inr (.inr (.inr ⟨hempty, not_exists.mp hwhole, hpath⟩))

/-- Whatever a module of the web imports is on the web. -/
theorem resolveSpecifier_isWeb (hread : referrer.IsRead) (hweb : referrer.IsWeb)
    (h : resolveSpecifier referrer s = .ok u) : u.IsWeb := by
  rcases specifier_cases s with rfl | ⟨v, hwhole⟩ | hpath | hbare
  · rw [resolveSpecifier_empty] at h
    cases h
  · rw [resolveSpecifier_whole hwhole] at h
    split at h
    · rename_i hv
      cases h
      exact hv
    · cases h
  · rw [resolveSpecifier_isPath hread hweb hpath] at h
    split at h
    · rename_i v hv
      cases h
      exact hweb.of_scheme_eq (Url.scheme_readRelative hv).symm
    · cases h
  · obtain ⟨v, hv, horigin⟩ := resolveSpecifier_bare hread hweb hbare
    rw [hv] at h
    cases h
    exact hweb.of_origin_eq horigin

/-- What is wrong with a specifier that stands for nothing. -/
inductive StandsForNothing (referrer : Url) (s : String) : Prop where
  | empty : s = "" → StandsForNothing referrer s
  /-- A URL that modules are not fetched from. -/
  | foreign {u : Url} : Url.parse s = .ok u → ¬ u.IsWeb → StandsForNothing referrer s
  /-- Two slashes, and no authority behind them. -/
  | nowhere : isPath s = true → Url.BeginsWithTwoSlashes s →
      ¬ Url.ValidAuthority referrer.scheme
        (Url.authorityText (Url.behindSlashes (Url.cleaned s))) → StandsForNothing referrer s

theorem resolveSpecifier_fails_iff (hread : referrer.IsRead) (hweb : referrer.IsWeb) :
    (∃ e, resolveSpecifier referrer s = .error e) ↔ StandsForNothing referrer s := by
  have hok : ∀ {u}, resolveSpecifier referrer s = .ok u →
      ¬ ∃ e, resolveSpecifier referrer s = .error e := by
    rintro u hu ⟨e, he⟩
    rw [hu] at he
    cases he
  constructor
  · intro hfails
    rcases specifier_cases s with hempty | ⟨u, hwhole⟩ | hpath | hbare
    · exact .empty hempty
    · refine .foreign hwhole fun hu => hok (u := u) ?_ hfails
      rw [resolveSpecifier_whole hwhole, if_pos hu]
    · obtain ⟨hstays, hleaves⟩ := resolveSpecifier_path hread hweb hpath
      by_cases hslashes : Url.BeginsWithTwoSlashes s
      · refine .nowhere hpath hslashes fun hvalid => ?_
        obtain ⟨u, hu⟩ := (hleaves hslashes).mpr hvalid
        exact hok hu hfails
      · obtain ⟨u, hu, -⟩ := hstays hslashes
        exact absurd hfails (hok hu)
    · obtain ⟨u, hu, -⟩ := resolveSpecifier_bare hread hweb hbare
      exact absurd hfails (hok hu)
  · intro hnothing
    cases hnothing with
    | empty hempty =>
      rw [hempty, resolveSpecifier_empty]
      exact ⟨_, rfl⟩
    | foreign hwhole hforeign =>
      rw [resolveSpecifier_whole hwhole, if_neg hforeign]
      exact ⟨_, rfl⟩
    | nowhere hpath hslashes hinvalid =>
      obtain ⟨-, hleaves⟩ := resolveSpecifier_path hread hweb hpath
      cases hresult : resolveSpecifier referrer s with
      | error e => exact ⟨e, rfl⟩
      | ok u => exact absurd ((hleaves hslashes).mp ⟨u, hresult⟩) hinvalid

/-! ## Whole walks -/

/-- All that a walk from the web meets is on the web. -/
theorem Explored.isWeb {entry : Url} {limit : Nat} {modules : List (Url × String)}
    {ahead : List Url} (h : Explored entry limit modules ahead) (hread : entry.IsRead)
    (hweb : entry.IsWeb) : ∀ u ∈ met modules ahead, u.IsRead ∧ u.IsWeb := by
  refine h.induction ⟨hread, hweb⟩ ?_
  rintro m - ⟨hm, hmweb⟩ u ⟨specifiers, -, s, -, hresolved⟩
  exact ⟨resolveSpecifier_isRead hm hresolved, resolveSpecifier_isWeb hm hmweb hresolved⟩

/-- What a walk from the web asks for is on the web. -/
theorem pursue_isWeb {entry : Url} (hread : entry.IsRead) (hweb : entry.IsWeb) (name : String)
    (limit : Nat) (moments : List (String → Reply)) :
    ∀ request ∈ (pursue (Walk.start name entry limit) moments).requests,
      ∃ u : Url, u.IsRead ∧ u.IsWeb ∧ u.text = request.2 := by
  intro request hrequest
  have hfirst : moments ≠ [] := by
    rintro rfl
    cases hrequest
  obtain ⟨before, network, w, modules, requests, new, -, -, hfollows, hends, hrequests, -⟩ :=
    pursue_ends name entry limit hfirst
  have hpast := hends.requested hfollows
  rw [← hrequests] at hpast
  obtain ⟨u, hu, htext⟩ := List.mem_map.mp (hpast.subset (List.mem_map_of_mem hrequest))
  obtain ⟨huread, huweb⟩ := hfollows.tracks.explored.isWeb hread hweb u hu
  exact ⟨u, huread, huweb, htext⟩

/-- Where the specifiers of modules lead.  A walk that begins at a URL of the web
asks for nothing but URLs of the web, whatever the network answers and the
modules import.  And in the module at such a URL a bare name stands for something
on the same origin, a path that stands for something elsewhere begins with two
slashes, and what stands for nothing at all is empty, or a URL with another
scheme, or has two slashes and no authority behind them. -/
theorem specifiers_confined {base : Url} (hread : base.IsRead) (hweb : base.IsWeb) :
    (∀ name limit moments, ∀ request ∈ (pursue (Walk.start name base limit) moments).requests,
      ∃ u : Url, u.IsRead ∧ u.IsWeb ∧ u.text = request.2) ∧
    (∀ s, IsBare s → ∃ u, resolveSpecifier base s = .ok u ∧ u.origin = base.origin) ∧
    (∀ s u, isPath s = true → resolveSpecifier base s = .ok u → u.origin ≠ base.origin →
      Url.BeginsWithTwoSlashes s) ∧
    ∀ s, (∃ e, resolveSpecifier base s = .error e) ↔ StandsForNothing base s := by
  refine ⟨pursue_isWeb hread hweb, fun s => resolveSpecifier_bare hread hweb, ?_,
    fun s => resolveSpecifier_fails_iff hread hweb⟩
  intro s u hpath hu horigin
  by_contra hslashes
  obtain ⟨v, hv, hsame⟩ := (resolveSpecifier_path hread hweb hpath).1 hslashes
  rw [hu] at hv
  cases hv
  exact horigin hsame

/-- A page of a site on the local host. -/
def localPage : Url :=
  { scheme := "http", host := some (.ipv6 [0, 0, 0, 0, 0, 0, 0, 1]), path := .segments ["a.js"] }

/-- A name of dots and marks stays on the local host; a path that is two slashes
to its reader leaves it. -/
theorem specifiers_confined_local :
    (∃ u, resolveSpecifier localPage "..\\..//#?" = .ok u ∧ u.origin = localPage.origin) ∧
    Url.BeginsWithTwoSlashes "/\t\\[::2]/b.js" ∧
    StandsForNothing localPage "ftp://[::1]/a.js" := by
  have hread : localPage.IsRead := .parse (s := "http://[::1]/a.js") (by decide +kernel)
  obtain ⟨-, hbare, hpath, hfails⟩ := specifiers_confined hread (Or.inl rfl)
  have hrelative : Url.parse "..\\..//#?" = .error .noBase := by decide +kernel
  have hleaves : resolveSpecifier localPage "/\t\\[::2]/b.js" = .ok { localPage with
      host := some (.ipv6 [0, 0, 0, 0, 0, 0, 0, 2]), path := .segments ["b.js"] } := by
    decide +kernel
  have hforeign : resolveSpecifier localPage "ftp://[::1]/a.js" =
      .error (.unresolvable "ftp://[::1]/a.js" localPage.text) := by
    decide +kernel
  refine ⟨hbare _ ⟨by decide, ?_, by decide +kernel⟩, ?_, ?_⟩
  · rw [hrelative]
    intro u hu
    cases hu
  · exact hpath _ _ (by decide +kernel) hleaves (by decide)
  · exact (hfails _).mp ⟨_, hforeign⟩

end Playpen.Dependency
