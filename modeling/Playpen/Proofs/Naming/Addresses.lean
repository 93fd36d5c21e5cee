import Playpen.Proofs.Naming.Specs
import Playpen.Proofs.Url.Encoding
import Playpen.Proofs.Url.Extension

/-!
# Where a dependency is fetched from

The address of an entry module is put together from texts and read as a URL
afterwards.  Whatever in the name or the version has a meaning in URLs has it
there as well: a `#` begins a fragment, a `?` a query, a backslash is a slash, and
`..` takes a segment away (`moduleUrl_astray`).

A dependency without any of these is `Addressable`.  Its entry module has an
address of its own below the base, with name and version in the path
(`moduleUrl_below`).
-/

namespace Playpen.Dependency

open Playpen.Text (isWhiteSpace Stops)

/-! ## Names and versions in addresses -/

/-- Name and version as they stand in the address. -/
def label (d : Dependency) : List Char := d.name.toList ++ '@' :: d.version.toList

/-- Nothing in the name or the version is taken for a part of the URL, or for a
step within its path. -/
structure Addressable (d : Dependency) : Prop where
  query : '?' ∉ d.label
  fragment : '#' ∉ d.label
  backslash : '\\' ∉ d.label
  pieces : ∀ piece ∈ Url.splitPath true d.label, Url.Stays piece

/-- A text as it is written in a path. -/
def encoded (s : String) : String := String.ofList (Url.encodeWith Url.pathSet s.toList)

/-- What the address puts behind the base and its slash. -/
def target (d : Dependency) : String := "npm/" ++ d.name ++ "@" ++ d.version ++ "/+esm"

section

variable {d : Dependency}

theorem toList_target (d : Dependency) :
    d.target.toList = "npm".toList ++ '/' :: (d.label ++ '/' :: "+esm".toList) := by
  simp [target, label]

theorem splitPath_target (d : Dependency) : Url.splitPath true d.target.toList =
    "npm".toList :: Url.splitPath true d.label ++ ["+esm".toList] := by
  rw [toList_target, Url.splitPath_append, Url.splitPath_append]
  rfl

theorem encodeWith_target (d : Dependency) : Url.encodeWith Url.pathSet d.target.toList =
    "npm/".toList ++ Url.encodeWith Url.pathSet d.label ++ "/+esm".toList := by
  have hfront : Url.encodeWith Url.pathSet ['n', 'p', 'm', '/'] = "npm/".toList := by decide
  have hback : Url.encodeWith Url.pathSet ['/', '+', 'e', 's', 'm'] = "/+esm".toList := by decide
  have hsplit : d.target.toList = ['n', 'p', 'm', '/'] ++ d.label ++ ['/', '+', 'e', 's', 'm'] := by
    rw [toList_target]
    simp
  rw [hsplit, Url.encodeWith_append, Url.encodeWith_append, hfront, hback]

theorem encodeWith_label (d : Dependency) : Url.encodeWith Url.pathSet d.label =
    (encoded d.name).toList ++ '@' :: (encoded d.version).toList := by
  have hat : Url.encodeWith Url.pathSet ['@'] = ['@'] := by decide
  have hsplit : d.label = d.name.toList ++ (['@'] ++ d.version.toList) := rfl
  rw [hsplit, Url.encodeWith_append, Url.encodeWith_append, hat, encoded, encoded,
    String.toList_ofList, String.toList_ofList]
  rfl

theorem stays_target (h : d.Addressable) :
    ∀ piece ∈ Url.splitPath true d.target.toList, Url.Stays piece := by
  rw [splitPath_target]
  refine List.forall_mem_append.mpr ⟨List.forall_mem_cons.mpr ⟨by decide, h.pieces⟩, ?_⟩
  exact List.forall_mem_singleton.mpr (by decide)

theorem mem_target {c : Char} (h : c ∈ d.target.toList) : c ∈ "npm/+esm".toList ∨ c ∈ d.label := by
  rw [toList_target] at h
  rcases List.mem_append.mp h with h | h
  · exact Or.inl (List.mem_append_left ['/', '+', 'e', 's', 'm'] h)
  · rcases List.mem_cons.mp h with rfl | h
    · exact Or.inl (by decide)
    · rcases List.mem_append.mp h with h | h
      · exact Or.inr h
      · exact Or.inl (List.mem_append_right ['n', 'p', 'm'] h)

theorem not_mem_target {c : Char} (hmarks : c ∉ "npm/+esm".toList) (h : c ∉ d.label) :
    c ∉ d.target.toList :=
  fun hc => (mem_target hc).elim hmarks h

theorem isBreak_of_not_blank {c : Char} (h : isWhiteSpace c = false) : Url.isBreak c = false := by
  cases hc : Url.isBreak c with
  | false => rfl
  | true =>
    simp only [Url.isBreak, Bool.or_eq_true, decide_eq_true_eq] at hc
    rcases hc with (rfl | rfl) | rfl
    · exact absurd h (by decide)
    · exact absurd h (by decide)
    · exact absurd h (by decide)

/-- Nothing in the address is a mark, and nothing is dropped. -/
theorem target_kept (haskable : Askable d.name.toList d.version.toList) (h : d.Addressable) :
    (∀ c ∈ d.target.toList, Url.isTail c = false ∧ Url.isBreak c = false) ∧
      Stops Url.isEdge d.target.toList.reverse := by
  constructor
  · intro c hc
    rcases mem_target hc with hmark | hlabel
    · have hplain : "npm/+esm".toList.all (fun c => !Url.isTail c && !Url.isBreak c) = true := by
        decide
      simpa using List.all_eq_true.mp hplain c hmark
    · have hquery : c ≠ '?' := fun heq => h.query (heq ▸ hlabel)
      have hfragment : c ≠ '#' := fun heq => h.fragment (heq ▸ hlabel)
      refine ⟨by simp [Url.isTail, hquery, hfragment], isBreak_of_not_blank ?_⟩
      rcases List.mem_append.mp hlabel with hname | hversion
      · exact haskable.name_solid c hname
      · rcases List.mem_cons.mp hversion with rfl | hversion
        · decide
        · exact haskable.version_solid c hversion
  · rw [toList_target]
    simp [Stops, Url.isEdge]

end

/-! ## Bases -/

/-- A base of the web: an address without query and fragment, and without blanks
behind it. -/
structure IsBase (cdnBase : String) (base : Url) : Prop where
  read : Url.parse cdnBase = .ok base
  web : base.IsWeb
  query : base.query = none
  fragment : base.fragment = none
  ends : Stops Url.isEdge cdnBase.toList.reverse

theorem exists_slashes (s : String) : ∃ slashes,
    s.toList = (dropTrailingSlashes s).toList ++ slashes ∧ ∀ c ∈ slashes, c = '/' := by
  refine ⟨(s.toList.reverse.takeWhile (· = '/')).reverse, ?_, ?_⟩
  · rw [dropTrailingSlashes, String.toList_ofList, ← List.reverse_append,
      List.takeWhile_append_dropWhile, List.reverse_reverse]
  · intro c hc
    simpa using List.mem_takeWhile_imp (List.mem_reverse.mp hc)

theorem moduleAddress_eq (d : Dependency) (cdnBase : String) :
    d.moduleAddress cdnBase = dropTrailingSlashes cdnBase ++ "/" ++ d.target := by
  apply String.toList_inj.mp
  simp [moduleAddress, target]

section

variable {cdnBase : String} {base : Url}

/-- Below a base every address is read in the same way. -/
theorem IsBase.exists_below (h : IsBase cdnBase base) : ∃ parts,
    Url.parse (dropTrailingSlashes cdnBase ++ "/") = .ok (base.below parts []) ∧
      ∀ d : Dependency, Askable d.name.toList d.version.toList → d.Addressable →
        d.moduleUrl cdnBase = .ok (base.below parts d.target.toList) := by
  obtain ⟨slashes, hsplit, hslashes⟩ := exists_slashes cdnBase
  obtain ⟨parts, hparts⟩ :=
    Url.parse_goes_on hsplit hslashes h.ends h.read h.web h.query h.fragment
  refine ⟨parts, ?_, fun d haskable haddressable => ?_⟩
  · have hhome := hparts "" (fun c hc => absurd hc List.not_mem_nil) (Text.stops_nil _)
    rw [String.append_empty] at hhome
    rw [hhome, Url.below_eq (by decide)]
    rfl
  · obtain ⟨hkept, hends⟩ := target_kept haskable haddressable
    have hread := hparts d.target hkept hends
    rw [Url.below_eq (stays_target haddressable)] at hread
    unfold moduleUrl
    rw [moduleAddress_eq]
    dsimp only
    rw [hread]

/-- An address has its label between fixed texts. -/
theorem pathText_target (parts : List String) {d : Dependency} (h : '\\' ∉ d.label) :
    (base.below parts d.target.toList).pathText =
      String.ofList (Url.Path.segments parts).written ++ "/npm/" ++ encoded d.name ++ "@" ++
        encoded d.version ++ "/+esm" := by
  apply String.toList_inj.mp
  rw [Url.toList_pathText_below parts (not_mem_target (by decide) h), encodeWith_target,
    encodeWith_label]
  simp

theorem label_inj {d d' : Dependency} (h : '@' ∉ d.version.toList) (h' : '@' ∉ d'.version.toList)
    (hlabel : d.label = d'.label) : d.name = d'.name ∧ d.version = d'.version := by
  have hcut : cutLastAt d.label = some (d.name.toList, d.version.toList) := cutLastAt_append h
  rw [hlabel, label, cutLastAt_append h'] at hcut
  obtain ⟨hname, hversion⟩ := Prod.mk.inj (Option.some.inj hcut)
  exact ⟨String.toList_inj.mp hname.symm, String.toList_inj.mp hversion.symm⟩

/-- Addresses that are the same are those of one label. -/
theorem label_eq_of_below {parts : List String} {d d' : Dependency} (h : d.Addressable)
    (h' : d'.Addressable) (hcode : '%' ∉ d.label) (hcode' : '%' ∉ d'.label)
    (hurl : base.below parts d.target.toList = base.below parts d'.target.toList) :
    d.label = d'.label := by
  have hpath : (base.below parts d.target.toList).pathText.toList =
      (base.below parts d'.target.toList).pathText.toList := by rw [hurl]
  rw [Url.toList_pathText_below parts (not_mem_target (by decide) h.backslash),
    Url.toList_pathText_below parts (not_mem_target (by decide) h'.backslash), encodeWith_target,
    encodeWith_target] at hpath
  have hencoded : Url.encodeWith Url.pathSet d.label = Url.encodeWith Url.pathSet d'.label := by
    have htarget := (List.cons.inj (List.append_cancel_left hpath)).2
    exact List.append_cancel_left (List.append_cancel_right htarget)
  exact Url.encodeWith_inj (fun c => Url.low_of_not_pathSet) hcode hcode' hencoded

/-- The entry modules of the dependencies that specs ask for and whose names and
versions mean nothing in URLs lie below the base, each at an address of its own. -/
theorem moduleUrl_below (h : IsBase cdnBase base) : ∃ home path,
    Url.parse (dropTrailingSlashes cdnBase ++ "/") = .ok home ∧ home.origin = base.origin ∧
      home.pathText = path ++ "/" ∧
      (∀ spec d, parseSpec spec = .ok d → d.Addressable → ∃ u, d.moduleUrl cdnBase = .ok u ∧
        u.origin = base.origin ∧ u.query = none ∧ u.fragment = none ∧
        u.pathText = path ++ "/npm/" ++ encoded d.name ++ "@" ++ encoded d.version ++ "/+esm") ∧
      ∀ spec spec' d d', parseSpec spec = .ok d → parseSpec spec' = .ok d' →
        d.Addressable → d'.Addressable → '%' ∉ d.label → '%' ∉ d'.label →
        d.name ≠ d'.name ∨ d.version ≠ d'.version → d.moduleUrl cdnBase ≠ d'.moduleUrl cdnBase := by
  obtain ⟨parts, hhome, hbelow⟩ := h.exists_below
  have hasks : ∀ {spec : String} {d : Dependency}, parseSpec spec = .ok d →
      Asks (String.ofList (Text.trimBy isWhiteSpace spec.toList)) d.name d.version :=
    fun hok => (exists_asks_of_ok (trims_iff.mpr rfl) hok).1
  refine ⟨base.below parts [], String.ofList (Url.Path.segments parts).written, hhome, rfl, ?_,
    fun spec d hok haddressable => ?_, ?_⟩
  · apply String.toList_inj.mp
    rw [Url.toList_pathText_below parts List.not_mem_nil, String.toList_append,
      String.toList_ofList]
    rfl
  · exact ⟨_, hbelow d (hasks hok).2 haddressable, rfl, h.query, h.fragment,
      pathText_target parts haddressable.backslash⟩
  · intro spec spec' d d' hok hok' haddressable haddressable' hcode hcode' hdiffers heq
    obtain ⟨hdivides, haskable⟩ := hasks hok
    obtain ⟨hdivides', haskable'⟩ := hasks hok'
    rw [hbelow d haskable haddressable, hbelow d' haskable' haddressable'] at heq
    have hlabel := label_eq_of_below haddressable haddressable' hcode hcode' (Except.ok.inj heq)
    obtain ⟨hname, hversion⟩ := label_inj hdivides.not_mem hdivides'.not_mem hlabel
    exact hdiffers.elim (fun hne => hne hname) fun hne => hne hversion

/-- A mirror on the local host. -/
def mirror : Url := { scheme := "http", host := some (.ipv6 [0, 0, 0, 0, 0, 0, 0, 1]), port := some 8080,
                      path := .segments ["cdn", ""] }

theorem isBase_mirror : IsBase "http://[::1]:8080/cdn/" mirror where
  read := by decide +kernel
  web := by decide
  query := rfl
  fragment := rfl
  ends := Text.stops_cons.mpr (by decide)

theorem addressable_scoped : (ofName "@scope/lib" "1.0.0").Addressable where
  query := by decide
  fragment := by decide
  backslash := by decide
  pieces := by decide

theorem addressable_unscoped : (ofName "scope/lib" "1.0.0").Addressable where
  query := by decide
  fragment := by decide
  backslash := by decide
  pieces := by decide

/-- A scoped package has its address below the mirror, and another one than the
package with the name that has no sign in front. -/
theorem moduleUrl_below_mirror :
    ∃ home path, Url.parse "http://[::1]:8080/cdn/" = .ok home ∧ home.pathText = path ++ "/" ∧
      (∃ u, (ofName "@scope/lib" "1.0.0").moduleUrl "http://[::1]:8080/cdn/" = .ok u ∧
        u.origin = mirror.origin ∧
        u.pathText = path ++ "/npm/" ++ "@scope/lib" ++ "@" ++ "1.0.0" ++ "/+esm") ∧
      (ofName "@scope/lib" "1.0.0").moduleUrl "http://[::1]:8080/cdn/" ≠
        (ofName "scope/lib" "1.0.0").moduleUrl "http://[::1]:8080/cdn/" := by
  obtain ⟨home, path, hhome, -, hpath, hbelow, hdistinct⟩ := moduleUrl_below isBase_mirror
  have hscoped : parseSpec "@scope/lib@1.0.0" = .ok (ofName "@scope/lib" "1.0.0") := by
    decide +kernel
  have hunscoped : parseSpec "scope/lib@1.0.0" = .ok (ofName "scope/lib" "1.0.0") := by
    decide +kernel
  have hname : encoded (ofName "@scope/lib" "1.0.0").name = "@scope/lib" := by decide
  have hversion : encoded (ofName "@scope/lib" "1.0.0").version = "1.0.0" := by decide
  obtain ⟨u, hu, horigin, -, -, htext⟩ := hbelow _ _ hscoped addressable_scoped
  rw [hname, hversion] at htext
  refine ⟨home, path, hhome, hpath, ⟨u, hu, horigin, htext⟩, ?_⟩
  exact hdistinct _ _ _ _ hscoped hunscoped addressable_scoped addressable_unscoped (by decide)
    (by decide) (Or.inl (by decide))

/-- What has a meaning in URLs has it in a name as well: behind `#` is the
fragment, and the way through `..` leads to the module of another name. -/
theorem moduleUrl_astray :
    parseSpec "a#b@1" = .ok (ofName "a#b" "1") ∧
      (ofName "a#b" "1").moduleUrl "http://[::1]:8080/cdn/" =
        .ok { mirror with path := .segments ["cdn", "npm", "a"], fragment := some "b@1/+esm" } ∧
      parseSpec "a/../b@1" = .ok (ofName "a/../b" "1") ∧ parseSpec "b@1" = .ok (ofName "b" "1") ∧
      (ofName "a/../b" "1").moduleUrl "http://[::1]:8080/cdn/" =
        (ofName "b" "1").moduleUrl "http://[::1]:8080/cdn/" := by
  decide +kernel

end

end Playpen.Dependency
