import Playpen.Proofs.Url.Outline

/-!
# Reading tidy URLs

Every URL that is read is tidy, alone or against a base that is: each reader puts
its parts together from pieces that it has cut at the delimiters, and encodes
what is left of them.
-/

namespace Playpen.Url

section

variable {u v b b' : Url} {cs : List Char}

/-! ## Parts put into a tidy URL -/

theorem Tidy.setTail (h : u.Tidy) {query : Option String}
    (hquery : ∀ q, query = some q → '#' ∉ q.toList) (fragment : Option String) :
    Tidy { u with query := query, fragment := fragment } :=
  ⟨h.scheme, h.site, h.path, hquery, h.file⟩

theorem no_query : ∀ q, (none : Option String) = some q → '#' ∉ q.toList :=
  fun _ h => nomatch h

theorem Tidy.setPath (h : u.Tidy) {path : Path} (hpath : path.Fits u.site) :
    Tidy { u with path := path } :=
  ⟨h.scheme, h.site, hpath, h.query, h.file⟩

theorem query_withTail {q : String} (h : (withTail u cs).query = some q) :
    ∃ text, q = String.ofList
      (encodeWith (if isSpecial u.scheme then specialQuerySet else querySet) text) := by
  unfold Url.withTail at h
  dsimp only at h
  split at h
  · rename_i text _
    exact ⟨text, (Option.some.inj h).symm⟩
  · cases h

theorem Tidy.withTail (h : u.Tidy) (cs : List Char) : (withTail u cs).Tidy := by
  refine h.setTail ?_ (Url.withTail u cs).fragment
  intro q hq hmem
  obtain ⟨text, rfl⟩ := query_withTail hq
  rw [String.toList_ofList] at hmem
  rcases mem_encodeWith hmem with ⟨-, hset⟩ | hcode
  · revert hset
    split <;> decide
  · exact absurd hcode (by decide)

theorem outline_withTail (hscheme : u.scheme = v.scheme) (hsite : u.site = v.site)
    (hpath : u.path = v.path) : (withTail u cs).outline = (withTail v cs).outline := by
  -- of the URL itself, reading its tail looks at the scheme only
  have hread : ∀ w : Url, (withTail w cs).outline =
      ⟨w.scheme, w.site, w.path, (withTail ⟨w.scheme, "", "", none, none, .whole "", none, none⟩ cs).query,
        (withTail ⟨w.scheme, "", "", none, none, .whole "", none, none⟩ cs).fragment⟩ := fun _ => rfl
  rw [hread, hread, hscheme, hsite, hpath]

theorem Tidy.withFragment (h : u.Tidy) (cs : List Char) : (withFragment u cs).Tidy :=
  h.setTail h.query _

theorem fits_pathFrom {scheme : String} {site : Option String} {before : List String}
    (hbefore : ∀ part ∈ before, IsSegment part) :
    Path.Fits site (.segments (pathFrom scheme before cs)) :=
  ⟨isSegment_pathFrom hbefore, fun _ => pathFrom_ne_nil scheme before cs⟩

theorem isSegment_nil : ∀ part ∈ ([] : List String), IsSegment part :=
  fun _ h => absurd h List.not_mem_nil

theorem fits_root {site : Option String} : Path.Fits site (.segments [""]) :=
  ⟨by decide, fun _ => List.cons_ne_nil _ _⟩

theorem Path.Fits.parts {site : Option String} {path : Path} (h : path.Fits site) :
    ∀ part ∈ path.parts, IsSegment part := by
  cases path with
  | whole text => exact isSegment_nil
  | segments parts => exact h.1

/-! ## Authorities -/

theorem plain_readLogin (info : Option (List Char)) :
    Plain (readLogin info).1.toList ∧ Plain (readLogin info).2.toList := by
  have hcode : ∀ cs, Plain (String.ofList (encodeWith userinfoSet cs)).toList := by
    intro cs
    rw [String.toList_ofList]
    exact plain_encodeWith fun c _ => isDelimiter_of_not_mem userinfoSet (by decide)
  cases info with
  | none => exact ⟨plain_nil, plain_nil⟩
  | some info => exact ⟨hcode _, hcode _⟩

theorem plain_of_readHostPort {scheme : String} {login : String × String} {host : Host}
    {port : Option Nat} (h : readHostPort scheme login cs = .ok (host, port)) :
    Plain host.text.toList := by
  have hread : ∀ {special : Bool} {text : List Char}, Host.read special text = .ok host →
      Plain host.text.toList := by
    intro special text hhost
    unfold Host.read at hhost
    split at hhost
    · exact plain_text_of_parse hhost
    · exact plain_text_of_parseOpaque hhost
  unfold readHostPort at h
  dsimp only at h
  split at h
  · cases h
  · obtain ⟨host', hhost, h⟩ := bind_eq_ok.mp h
    split at h
    · cases h
    · obtain ⟨port', -, h⟩ := bind_eq_ok.mp h
      cases h
      exact hread hhost

theorem isSegment_authorityPath {scheme : String} :
    ∀ part ∈ authorityPath scheme cs, IsSegment part := by
  unfold authorityPath
  split
  · split
    · decide
    · exact isSegment_nil
  · exact isSegment_pathFrom isSegment_nil

/-- User name, password, host and port are between delimiters together, too. -/
theorem plain_site (husername : Plain u.username.toList) (hpassword : Plain u.password.toList)
    (hhost : ∀ h, u.host = some h → Plain h.text.toList) :
    ∀ s, u.site = some s → Plain s.toList := by
  have huserinfo : Plain u.userinfo.toList := by
    unfold userinfo
    split
    · exact plain_nil
    · rw [String.toList_append, String.toList_append, plain_append, plain_append]
      refine ⟨⟨husername, ?_⟩, by decide⟩
      split
      · exact plain_nil
      · rw [String.toList_append, plain_append]
        exact ⟨by decide, hpassword⟩
  intro s hs
  unfold site at hs
  split at hs
  · rename_i h hh
    cases hs
    rw [String.toList_append, String.toList_append, plain_append, plain_append]
    refine ⟨⟨huserinfo, hhost h hh⟩, ?_⟩
    split
    · rw [String.toList_append, plain_append]
      exact ⟨by decide, plain_toString _⟩
    · exact plain_nil
  · split at hs
    · cases hs
      exact plain_nil
    · cases hs

theorem tidy_readAuthority {scheme : String} (hscheme : ':' ∉ scheme.toList)
    (hfile : scheme ≠ "file") (h : readAuthority scheme cs = .ok u) : u.Tidy := by
  unfold readAuthority at h
  dsimp only at h
  split at h
  · cases h
  · obtain ⟨⟨host, port⟩, hhost, h⟩ := bind_eq_ok.mp h
    cases h
    apply Tidy.withTail
    refine ⟨hscheme, plain_site (plain_readLogin _).1 (plain_readLogin _).2 ?_,
      ⟨isSegment_authorityPath, ?_⟩, ?_, fun heq => absurd heq hfile⟩
    · intro host' heq
      cases heq
      exact plain_of_readHostPort hhost
    · intro hnone
      cases hnone
    · intro q hq
      cases hq

/-! ## Files -/

/-- Where a file is, apart from its path. -/
def fileSite (host : Option Host) : String := (host.map Host.text).getD ""

theorem site_eq_fileSite (hfile : u.scheme = "file")
    (hbare : u.username = "" ∧ u.password = "" ∧ u.port = none) :
    u.site = some (fileSite u.host) := by
  obtain ⟨husername, hpassword, hport⟩ := hbare
  unfold site fileSite
  cases u.host with
  | none => simp [hfile]
  | some h => simp [userinfo, husername, hpassword, hport]

theorem Tidy.plain_fileSite (h : b.Tidy) (hfile : b.scheme = "file") :
    Plain (fileSite b.host).toList :=
  h.site _ (site_eq_fileSite hfile (h.file hfile))

/-- A host that a file URL has is plain. -/
theorem tidy_file {host : Option Host} {parts : List String} (hhost : Plain (fileSite host).toList)
    (hparts : ∀ part ∈ parts, IsSegment part) :
    Tidy { scheme := "file", host := host, path := .segments parts } := by
  have hsite : site { scheme := "file", host := host, path := .segments parts } =
      some (fileSite host) := site_eq_fileSite rfl ⟨rfl, rfl, rfl⟩
  refine ⟨(by decide : ':' ∉ "file".toList), ?_, ⟨hparts, ?_⟩, ?_, fun _ => ⟨rfl, rfl, rfl⟩⟩
  · intro s hs
    rw [hsite] at hs
    cases hs
    exact hhost
  · intro hnone
    rw [hsite] at hnone
    cases hnone
  · intro q hq
    cases hq

theorem tidy_fileUrl {host : Option Host} {before : List String}
    (hhost : Plain (fileSite host).toList) (hbefore : ∀ part ∈ before, IsSegment part) :
    (fileUrl host before cs).Tidy := by
  exact (tidy_file hhost (isSegment_pathFrom hbefore)).withTail _

theorem plain_of_readFileHost {host : Option Host} {tail : List Char}
    (h : readFileHost cs = .ok (host, tail)) : Plain (fileSite host).toList := by
  unfold readFileHost at h
  dsimp only at h
  split at h
  · cases h
    exact plain_nil
  · split at h
    · cases h
      exact plain_nil
    · obtain ⟨host', hhost, h⟩ := bind_eq_ok.mp h
      cases h
      split
      · exact plain_nil
      · exact plain_text_of_parse hhost

theorem plain_fileSite_none : Plain (fileSite none).toList := plain_nil

theorem tidy_readFileAuthority (h : readFileAuthority cs = .ok u) : u.Tidy := by
  unfold readFileAuthority at h
  obtain ⟨⟨host, tail⟩, hhost, h⟩ := bind_eq_ok.mp h
  have htidy : ∀ rest, (fileUrl host [] rest).Tidy :=
    fun rest => tidy_fileUrl (plain_of_readFileHost hhost) isSegment_nil
  dsimp only at h
  split at h
  · cases h
    split
    · -- the drive letter stays in the path
      exact (tidy_file plain_fileSite_none (htidy _).path.1).setTail (htidy _).query _
    · exact htidy _
  · cases h
    exact htidy _

theorem isSegment_drive_of_parts {parts : List String} (h : ∀ part ∈ parts, IsSegment part) :
    ∀ part ∈ drive parts, IsSegment part := by
  unfold drive
  split
  · rename_i d rest
    intro part hpart
    obtain ⟨-, hpart⟩ := List.mem_ite_nil_right.mp hpart
    rw [List.mem_singleton.mp hpart]
    exact h d List.mem_cons_self
  · exact isSegment_nil

/-- A base that counts for a file, or none. -/
def IsFileBase (base : Option Url) : Prop := ∀ b, base = some b → b.Tidy ∧ b.scheme = "file"

theorem isFileBase_none : IsFileBase none := fun _ h => nomatch h

theorem IsFileBase.plain {base : Option Url} (h : IsFileBase base) :
    Plain (fileSite (base.bind (·.host))).toList := by
  cases base with
  | none => exact plain_nil
  | some b => exact (h b rfl).1.plain_fileSite (h b rfl).2

theorem IsFileBase.isSegment_drive {base : Option Url} (h : IsFileBase base) :
    ∀ part ∈ base.elim [] (drive ·.path.parts), IsSegment part := by
  cases base with
  | none => exact isSegment_nil
  | some b => exact isSegment_drive_of_parts (h b rfl).1.path.parts

theorem tidy_readFile {base : Option Url} (hbase : IsFileBase base)
    (h : readFile base cs = .ok u) : u.Tidy := by
  unfold readFile at h
  split at h
  · split at h
    · split at h
      · split at h
        · exact tidy_readFileAuthority h
        · cases h
          have hinherited : ∀ rest, IsFileBase (if startsWithDriveLetter rest then none else base) := by
            intro rest
            split
            · exact isFileBase_none
            · exact hbase
          exact tidy_fileUrl (hinherited _).plain (hinherited _).isSegment_drive
      · cases h
        exact tidy_fileUrl hbase.plain isSegment_nil
    · split at h
      · rename_i b
        obtain ⟨hb, hfile⟩ := hbase b rfl
        split at h
        · cases h
          exact (hb.setTail no_query none).withTail _
        · split at h
          · cases h
            exact (hb.withTail _).setTail hb.query _
          · split at h
            · cases h
              exact tidy_fileUrl plain_fileSite_none isSegment_nil
            · cases h
              have hparts := hb.path.parts
              exact tidy_fileUrl (hb.plain_fileSite hfile)
                fun part hpart => hparts part (shorten_subset true _ hpart)
      · cases h
        exact tidy_fileUrl plain_fileSite_none isSegment_nil
  · split at h
    · rename_i b
      cases h
      exact (hbase b rfl).1.setTail (hbase b rfl).1.query none
    · cases h
      exact tidy_fileUrl plain_fileSite_none isSegment_nil

/-! ## Any reference -/

theorem tidy_readRelative (hb : b.Tidy) (hfile : b.scheme ≠ "file")
    (h : readRelative b cs = .ok u) : u.Tidy := by
  unfold readRelative at h
  dsimp only at h
  split at h
  · cases h
    exact hb.setTail hb.query none
  · cases h
    exact (hb.setTail no_query none).withTail _
  · cases h
    exact hb.withFragment _
  · split at h
    · split at h
      · split at h
        · split at h
          · exact tidy_readAuthority hb.scheme hfile h
          · exact tidy_readAuthority hb.scheme hfile h
        · cases h
          exact (hb.setPath (fits_pathFrom isSegment_nil)).withTail _
      · cases h
        exact (hb.setPath fits_root).setTail no_query none
    · cases h
      have hparts := hb.path.parts
      refine (hb.setPath (fits_pathFrom fun part hpart => ?_)).withTail _
      exact hparts part (List.dropLast_subset _ hpart)

theorem eq_colon_of_toLower {c : Char} (h : c.toLower = ':') : c = ':' := by
  unfold Char.toLower at h
  split at h
  · rename_i hupper
    -- a capital letter becomes a small one
    have hval : (c.val + ('a'.val - 'A'.val)).toNat = 58 := congrArg (fun d : Char => d.val.toNat) h
    have hlo : 65 ≤ c.val.toNat := UInt32.le_iff_toNat_le.mp hupper.1
    have hhi : c.val.toNat ≤ 90 := UInt32.le_iff_toNat_le.mp hupper.2
    have hshift : ('a'.val - 'A'.val).toNat = 32 := rfl
    rw [UInt32.toNat_add] at hval
    omega
  · exact h

theorem not_mem_cutScheme {scheme : String} {rest : List Char}
    (h : cutScheme cs = some (scheme, rest)) : ':' ∉ scheme.toList := by
  unfold cutScheme at h
  split at h
  · cases h
  · dsimp only at h
    split at h
    · split at h
      · cases h
        rw [String.toList_ofList]
        intro hmem
        obtain ⟨c, hc, hlower⟩ := List.mem_map.mp hmem
        have hin := List.mem_takeWhile_imp hc
        rw [eq_colon_of_toLower hlower] at hin
        exact absurd hin (by decide)
      · cases h
    · cases h

/-- A URL without host, unless it is a file. -/
theorem tidy_hostless {scheme : String} {path : Path} (hscheme : ':' ∉ scheme.toList)
    (hfile : scheme ≠ "file") (hpath : path.Fits none) :
    Tidy { scheme := scheme, path := path } := by
  have hsite : site { scheme := scheme, path := path } = none := if_neg hfile
  refine ⟨hscheme, ?_, ?_, no_query, fun heq => absurd heq hfile⟩
  · intro s hs
    rw [hsite] at hs
    cases hs
  · rw [hsite]
    exact hpath

theorem fits_whole (h : ∀ rest, cs = '/' :: rest → False) :
    Path.Fits none (.whole (String.ofList (encodeWith controlSet (cut isTail cs).1))) := by
  refine ⟨rfl, ?_, ?_⟩
  · rw [String.toList_ofList]
    intro c hc
    rcases mem_encodeWith hc with ⟨hmem, -⟩ | hcode
    · simpa using List.mem_takeWhile_imp hmem
    · exact isTail_of_isDelimiter (isDelimiter_of_isPunctuation hcode)
  · rw [String.toList_ofList]
    intro hhead
    have hcut := head?_encodeWith (by decide) hhead
    cases cs with
    | nil => cases hcut
    | cons c rest =>
      rw [cut, List.takeWhile_cons] at hcut
      split at hcut
      · cases hcut
        exact h rest rfl
      · cases hcut

theorem tidy_readAfterScheme {base : Option Url} {scheme : String}
    (hbase : ∀ b, base = some b → b.Tidy) (hscheme : ':' ∉ scheme.toList)
    (h : readAfterScheme base scheme cs = .ok u) : u.Tidy := by
  unfold readAfterScheme at h
  split at h
  · refine tidy_readFile ?_ h
    intro b hb
    obtain ⟨hmem, hfile⟩ := Option.filter_eq_some_iff.mp hb
    exact ⟨hbase b hmem, by simpa using hfile⟩
  · rename_i hfile
    split at h
    · dsimp only at h
      split at h
      · rename_i b
        split at h
        · rename_i hsame
          exact tidy_readRelative (hbase b rfl) (hsame.2 ▸ hfile) h
        · exact tidy_readAuthority hscheme hfile h
      · exact tidy_readAuthority hscheme hfile h
    · split at h
      · exact tidy_readAuthority hscheme hfile h
      · cases h
        exact (tidy_hostless hscheme hfile (fits_pathFrom isSegment_nil)).withTail _
      · rename_i hslash
        cases h
        exact (tidy_hostless hscheme hfile (fits_whole hslash)).withTail _

theorem tidy_resolve {base : Option Url} {s : String} (hbase : ∀ b, base = some b → b.Tidy)
    (h : resolve base s = .ok u) : u.Tidy := by
  unfold resolve at h
  dsimp only at h
  split at h
  · rename_i scheme rest hcut
    exact tidy_readAfterScheme hbase (not_mem_cutScheme hcut) h
  · split at h
    · cases h
    · rename_i b
      have hb := hbase b rfl
      split at h
      · cases h
        exact hb.withFragment _
      · split at h
        · cases h
        · split at h
          · rename_i hfile
            refine tidy_readFile ?_ h
            intro b' heq
            cases heq
            exact ⟨hb, hfile⟩
          · rename_i hfile
            exact tidy_readRelative hb hfile h

end

end Playpen.Url
