import Playpen.Proofs.Url.Reading

/-!
# What a reference takes from its base

What a reference stands for depends on no more of its base than the outline
(`resolve_congr`).  URLs that have been read are tidy, and tidy URLs that are
written alike have the same outline, so they serve alike as a base
(`IsRead.join_text`).
-/

namespace Playpen.Url

section

variable {u v b b' : Url} {cs : List Char}

/-- Two readings fail for the same reason or give URLs of one outline. -/
def SameOutline (r r' : Except Error Url) : Prop := r.map outline = r'.map outline

theorem SameOutline.ok (h : u.outline = v.outline) : SameOutline (.ok u) (.ok v) :=
  congrArg Except.ok h

theorem SameOutline.map_text {r r' : Except Error Url} (h : SameOutline r r') :
    r.map text = r'.map text := by
  rcases map_eq_map.mp h with ⟨u, v, rfl, rfl, houtline⟩ | ⟨e, rfl, rfl⟩
  · exact congrArg Except.ok (text_eq_of_outline_eq houtline)
  · rfl

theorem outline_ext (hscheme : u.scheme = v.scheme) (hsite : u.site = v.site)
    (hpath : u.path = v.path) (hquery : u.query = v.query) (hfragment : u.fragment = v.fragment) :
    u.outline = v.outline := by
  unfold outline
  rw [hscheme, hsite, hpath, hquery, hfragment]

theorem outline_fileUrl {host host' : Option Host} (h : fileSite host = fileSite host')
    (before : List String) (cs : List Char) :
    (fileUrl host before cs).outline = (fileUrl host' before cs).outline := by
  have hsite : ∀ (host : Option Host), (fileUrl host before cs).site = some (fileSite host) :=
    fun _ => site_eq_fileSite rfl ⟨rfl, rfl, rfl⟩
  refine outline_ext rfl ?_ rfl rfl rfl
  rw [hsite, hsite, h]

theorem Tidy.fileSite_eq (hb : b.Tidy) (hb' : b'.Tidy) (hfile : b.scheme = "file")
    (h : b.outline = b'.outline) : fileSite b.host = fileSite b'.host := by
  have hfile' : b'.scheme = "file" := by
    rw [← hfile]
    exact (congrArg Outline.scheme h).symm
  have hsite : b.site = b'.site := congrArg Outline.site h
  rw [site_eq_fileSite hfile (hb.file hfile), site_eq_fileSite hfile' (hb'.file hfile')] at hsite
  exact Option.some.inj hsite

variable (h : b.outline = b'.outline)

include h

theorem readFile_congr (hb : b.Tidy) (hb' : b'.Tidy) (hfile : b.scheme = "file") :
    SameOutline (readFile (some b) cs) (readFile (some b') cs) := by
  have hhost := hb.fileSite_eq hb' hfile h
  obtain ⟨hscheme, hsite, hpath, hquery, -⟩ := Outline.mk.inj h
  unfold readFile
  split
  · rename_i a rest
    split
    · split
      · split
        · rfl
        · dsimp only
          split
          · rfl
          · rw [Option.elim_some, Option.elim_some, hpath]
            exact SameOutline.ok (outline_fileUrl hhost _ _)
      · exact SameOutline.ok (outline_fileUrl hhost _ _)
    · dsimp only
      split
      · exact SameOutline.ok (outline_withTail hscheme hsite hpath)
      · split
        · have htail : (withTail b (a :: rest)).outline = (withTail b' (a :: rest)).outline :=
            outline_withTail hscheme hsite hpath
          exact SameOutline.ok
            (outline_ext hscheme hsite hpath hquery (congrArg Outline.fragment htail))
        · split
          · rfl
          · rw [hpath]
            exact SameOutline.ok (outline_fileUrl hhost _ _)
  · exact SameOutline.ok (outline_ext hscheme hsite hpath hquery rfl)

theorem withFragment_congr : (withFragment b cs).outline = (withFragment b' cs).outline := by
  obtain ⟨hscheme, hsite, hpath, hquery, -⟩ := Outline.mk.inj h
  have htail : (withTail { b with query := none } cs).outline =
      (withTail { b' with query := none } cs).outline := outline_withTail hscheme hsite hpath
  exact outline_ext hscheme hsite hpath hquery (congrArg Outline.fragment htail)

theorem readRelative_congr : SameOutline (readRelative b cs) (readRelative b' cs) := by
  have hfragment : (withFragment b cs).outline = (withFragment b' cs).outline :=
    withFragment_congr h
  obtain ⟨scheme, username, password, host, port, path, query, fragment⟩ := b
  obtain ⟨scheme', username', password', host', port', path', query', fragment'⟩ := b'
  obtain ⟨rfl, hsite, rfl, rfl, -⟩ := Outline.mk.inj h
  unfold readRelative
  dsimp only
  split
  · exact SameOutline.ok (outline_ext rfl hsite rfl rfl rfl)
  · exact SameOutline.ok (outline_withTail rfl hsite rfl)
  · exact SameOutline.ok hfragment
  · split
    · split
      · split
        · rfl
        · exact SameOutline.ok (outline_withTail rfl hsite rfl)
      · exact SameOutline.ok (outline_ext rfl hsite rfl rfl rfl)
    · exact SameOutline.ok (outline_withTail rfl hsite rfl)

theorem readAfterScheme_congr (hb : b.Tidy) (hb' : b'.Tidy) (scheme : String) :
    SameOutline (readAfterScheme (some b) scheme cs) (readAfterScheme (some b') scheme cs) := by
  have hscheme : b.scheme = b'.scheme := congrArg Outline.scheme h
  unfold readAfterScheme
  split
  · rw [Option.filter_some, Option.filter_some, ← hscheme]
    split
    · rename_i hfile
      exact readFile_congr h hb hb' (by simpa using hfile)
    · rfl
  · split
    · dsimp only
      rw [← hscheme]
      split
      · exact readRelative_congr h
      · rfl
    · rfl

/-- A reference stands for the same against bases of one outline. -/
theorem resolve_congr (hb : b.Tidy) (hb' : b'.Tidy) (s : String) :
    SameOutline (resolve (some b) s) (resolve (some b') s) := by
  have hscheme : b.scheme = b'.scheme := congrArg Outline.scheme h
  have hpath : b.path = b'.path := congrArg Outline.path h
  have hbase : b.isBase = b'.isBase := by
    rw [isBase, isBase, hpath]
  unfold resolve
  dsimp only
  split
  · exact readAfterScheme_congr h hb hb' _
  · split
    · exact SameOutline.ok (withFragment_congr h)
    · rw [hbase, ← hscheme]
      split
      · rfl
      · split
        · rename_i hfile
          exact readFile_congr h hb hb' hfile
        · exact readRelative_congr h

end

/-! ## URLs that have been read -/

/-- A URL that the readers give: all there are. -/
inductive IsRead : Url → Prop where
  | parse {s : String} {u : Url} : parse s = .ok u → IsRead u
  | join {base : Url} {s : String} {u : Url} : IsRead base → join base s = .ok u → IsRead u

theorem IsRead.tidy {u : Url} (h : u.IsRead) : u.Tidy := by
  induction h with
  | parse h =>
    refine tidy_resolve ?_ h
    intro b hb
    cases hb
  | join _ h ih =>
    refine tidy_resolve ?_ h
    intro b hb
    cases hb
    exact ih

/-- References stand for the same against URLs that are written alike. -/
theorem IsRead.join_text {b b' : Url} (hb : b.IsRead) (hb' : b'.IsRead) (h : b.text = b'.text)
    (s : String) : (b.join s).map text = (b'.join s).map text :=
  (resolve_congr (hb.tidy.outline_eq hb'.tidy h) hb.tidy hb'.tidy s).map_text

end Playpen.Url
