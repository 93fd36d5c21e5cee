import Playpen.Proofs.Text.Pieces
import Playpen.Proofs.Url.Delimiters

/-!
# What the text of a URL tells

Two URLs may differ in their parts and be written alike, as where a colon ends a
user name in one and begins a port in the other.  What the text does tell is the
`Outline`: the scheme, everything between `//` and the path as one piece, the
path in segments, the query and the fragment.  `Outline.ofText` reads it off
again, for every URL that is `Tidy`, that is, whose parts are free of the
delimiters behind them.

The readers of URLs give tidy ones only, and what a reference stands for depends
on no more of its base than the outline.  So URLs that are written alike are the
same to all who resolve references against them.
-/

namespace Playpen.Url

/-! ## Outlines -/

/-- What is written between `//` and the path.  A file has that even without a
host. -/
def site (u : Url) : Option String :=
  match u.host with
  | some h =>
    some (u.userinfo ++ h.text ++ (match u.port with | some p => ":" ++ toString p | none => ""))
  | none => if u.scheme = "file" then some "" else none

/-- A URL without the limits between user name, password, host and port. -/
structure Outline where
  scheme : String
  site : Option String
  path : Path
  query : Option String
  fragment : Option String

def outline (u : Url) : Outline := ⟨u.scheme, u.site, u.path, u.query, u.fragment⟩

/-- A path as it is written. -/
def Path.written : Path → List Char
  | .whole text => text.toList
  | .segments parts => parts.flatMap fun part => '/' :: part.toList

/-- What keeps a path from being read as an authority. -/
def Path.guard : Path → String
  | .segments ("" :: _ :: _) => "/."
  | _ => ""

/-- What stands between the scheme's colon and the query. -/
def front (site : Option String) (path : Path) : List Char :=
  match site with
  | some s => '/' :: '/' :: (s.toList ++ path.written)
  | none => path.guard.toList ++ path.written

/-- Query and fragment as they are written. -/
def Outline.tail (o : Outline) : List Char :=
  o.query.elim [] ('?' :: ·.toList) ++ o.fragment.elim [] ('#' :: ·.toList)

theorem toList_pathText (u : Url) : u.pathText.toList = u.path.written := by
  unfold pathText
  cases u.path with
  | whole text => rfl
  | segments parts =>
    show (String.join _).toList = parts.flatMap _
    rw [String.toList_join, List.flatMap_map]
    simp

theorem text_eq (u : Url) : u.text.toList =
    u.scheme.toList ++ ':' :: (front u.site u.path ++ u.outline.tail) := by
  have hauthority : u.authority.toList ++ u.path.written = front u.site u.path := by
    unfold authority site
    cases u.host with
    | some h =>
      cases u.port <;> simp [front]
    | none =>
      dsimp only
      split
      · rfl
      · rfl
  have htail : (u.query.elim "" ("?" ++ ·)).toList ++ (u.fragment.elim "" ("#" ++ ·)).toList =
      u.outline.tail := by
    show _ = u.query.elim [] _ ++ u.fragment.elim [] _
    cases u.query <;> cases u.fragment <;> simp
  rw [← hauthority, ← htail, ← toList_pathText]
  simp [text]

/-! ## Reading an outline -/

/-- The segments of a path that is written with slashes. -/
def segmentsOf : List Char → Path
  | '/' :: rest => .segments ((rest.splitOn '/').map String.ofList)
  | _ => .segments []

/-- What stands before the query, taken apart. -/
def frontOf : List Char → Option String × Path
  | '/' :: '/' :: rest =>
    (some (String.ofList (rest.takeWhile (· ≠ '/'))), segmentsOf (rest.dropWhile (· ≠ '/')))
  | '/' :: '.' :: '/' :: rest => (none, segmentsOf ('/' :: rest))
  | '/' :: rest => (none, segmentsOf ('/' :: rest))
  | rest => (none, .whole (String.ofList rest))

/-- A text behind its mark. -/
def behind (mark : Char) : List Char → Option String
  | c :: rest => if c = mark then some (String.ofList rest) else none
  | [] => none

def Outline.ofText (cs : List Char) : Outline :=
  let rest := (cs.dropWhile (· ≠ ':')).drop 1
  let tail := rest.dropWhile (!isTail ·)
  let before := frontOf (rest.takeWhile (!isTail ·))
  { scheme := String.ofList (cs.takeWhile (· ≠ ':'))
    site := before.1
    path := before.2
    query := behind '?' (tail.takeWhile (· ≠ '#'))
    fragment := behind '#' (tail.dropWhile (· ≠ '#')) }

/-- A path that can be told from what is written before it. -/
def Path.Fits (site : Option String) : Path → Prop
  | .whole text => site = none ∧ (∀ c ∈ text.toList, isTail c = false) ∧ text.toList.head? ≠ some '/'
  | .segments parts => (∀ part ∈ parts, IsSegment part) ∧ (site = none → parts ≠ [])

/-- Each part of the URL is free of the delimiters behind it. -/
structure Tidy (u : Url) : Prop where
  scheme : ':' ∉ u.scheme.toList
  site : ∀ s, u.site = some s → Plain s.toList
  path : u.path.Fits u.site
  query : ∀ q, u.query = some q → '#' ∉ q.toList
  /-- A file has neither a user nor a port. -/
  file : u.scheme = "file" → u.username = "" ∧ u.password = "" ∧ u.port = none

theorem written_segments {parts : List String} (h : parts ≠ []) :
    (Path.segments parts).written = '/' :: ['/'].intercalate (parts.map String.toList) := by
  induction parts with
  | nil => exact absurd rfl h
  | cons part rest ih =>
    rw [Path.written, List.flatMap_cons, List.cons_append]
    cases rest with
    | nil => simp [List.intercalate]
    | cons next rest =>
      have hrest := ih (List.cons_ne_nil next rest)
      rw [Path.written] at hrest
      rw [hrest]
      simp [List.intercalate]

theorem segmentsOf_written {parts : List String} (h : ∀ part ∈ parts, IsSegment part) :
    segmentsOf (Path.segments parts).written = .segments parts := by
  by_cases hparts : parts = []
  · subst hparts
    rfl
  · have hslash : ∀ piece ∈ parts.map String.toList, '/' ∉ piece := by
      intro piece hpiece hmem
      obtain ⟨part, hpart, rfl⟩ := List.mem_map.mp hpiece
      exact absurd ((h part hpart).1 '/' hmem) (by decide)
    rw [written_segments hparts, segmentsOf, List.splitOn_intercalate '/' hslash (by simpa using hparts),
      List.map_map]
    simp

theorem frontOf_whole {cs : List Char} (h : cs.head? ≠ some '/') :
    frontOf cs = (none, .whole (String.ofList cs)) := by
  unfold frontOf
  split
  · exact absurd rfl h
  · exact absurd rfl h
  · exact absurd rfl h
  · rfl

theorem frontOf_slash {cs : List Char} (hslash : cs.head? ≠ some '/')
    (hguard : ∀ rest, cs ≠ '.' :: '/' :: rest) :
    frontOf ('/' :: cs) = (none, segmentsOf ('/' :: cs)) := by
  unfold frontOf
  split
  · rename_i heq
    cases heq
    exact absurd rfl hslash
  · rename_i rest heq
    cases heq
    exact absurd rfl (hguard rest)
  · rename_i heq
    cases heq
    rfl
  · rename_i hother
    exact absurd rfl (hother cs)

/-- A path without authority is told from one by its first segment, which is
neither empty nor a dot. -/
theorem frontOf_segments {parts : List String} (hsegments : ∀ part ∈ parts, IsSegment part)
    (hparts : parts ≠ []) : frontOf (front none (.segments parts)) = (none, .segments parts) := by
  have hread := segmentsOf_written hsegments
  obtain ⟨part, rest, rfl⟩ := List.exists_cons_of_ne_nil hparts
  obtain ⟨⟨hplain, hdot⟩, -⟩ := List.forall_mem_cons.mp hsegments
  have hwritten : (Path.segments (part :: rest)).written =
      '/' :: (part.toList ++ (Path.segments rest).written) := rfl
  by_cases hempty : part = ""
  · subst hempty
    cases rest with
    | nil => rfl
    | cons next rest =>
      have hguard : (Path.segments ("" :: next :: rest)).guard.toList = ['/', '.'] := by
        simp [Path.guard]
      rw [hwritten] at hread
      rw [front, hguard, hwritten]
      show frontOf ('/' :: '.' :: '/' :: _) = _
      rw [frontOf, hread]
  · have hguard : (Path.segments (part :: rest)).guard = "" := by
      unfold Path.guard
      split
      · rename_i heq
        cases heq
        exact absurd rfl hempty
      · rfl
    obtain ⟨c, cs, hcs⟩ := List.exists_cons_of_ne_nil (mt String.toList_eq_nil_iff.mp hempty)
    rw [hcs, plain_cons] at hplain
    obtain ⟨hc, hplain⟩ := hplain
    show frontOf ((Path.segments (part :: rest)).guard.toList ++ _) = _
    rw [hguard, hwritten, ← hread, hwritten]
    apply frontOf_slash
    · rw [hcs]
      rintro heq
      cases heq
      exact absurd hc (by decide)
    · intro tail heq
      rw [hcs, List.cons_append] at heq
      obtain ⟨rfl, hrest⟩ := List.cons.inj heq
      cases cs with
      | nil => exact hdot (String.toList_inj.mp hcs)
      | cons d cs =>
        obtain ⟨rfl, -⟩ := List.cons.inj hrest
        exact absurd (plain_cons.mp hplain).1 (by decide)

theorem frontOf_front {site : Option String} {path : Path}
    (hsite : ∀ s, site = some s → Plain s.toList) (hpath : path.Fits site) :
    frontOf (front site path) = (site, path) := by
  cases site with
  | some s =>
    cases path with
    | whole text => cases hpath.1
    | segments parts =>
      have hstops : Text.Stops (· ≠ '/') (Path.segments parts).written := by
        by_cases hparts : parts = []
        · subst hparts
          exact Text.stops_nil _
        · rw [written_segments hparts]
          exact Text.stops_cons.mpr (by decide)
      have hs : ∀ c ∈ s.toList, decide (c ≠ '/') = true := by
        intro c hc
        have := hsite s rfl c hc
        simp only [isDelimiter, Bool.or_eq_false_iff, decide_eq_false_iff_not] at this
        simpa using this.1
      rw [front, frontOf, Text.takeWhile_append_of_stops hs hstops,
        Text.dropWhile_append_of_stops hs hstops, segmentsOf_written hpath.1, String.ofList_toList]
  | none =>
    cases path with
    | whole text =>
      obtain ⟨-, -, hhead⟩ := hpath
      show frontOf text.toList = _
      rw [frontOf_whole hhead, String.ofList_toList]
    | segments parts => exact frontOf_segments hpath.1 (hpath.2 rfl)

/-! ## Reading a text -/

theorem isTail_of_isDelimiter {c : Char} (h : isDelimiter c = false) : isTail c = false :=
  (Bool.or_eq_false_iff.mp h).2

theorem isTail_front {site : Option String} {path : Path}
    (hsite : ∀ s, site = some s → Plain s.toList) (hpath : path.Fits site) :
    ∀ c ∈ front site path, isTail c = false := by
  have hwritten : ∀ c ∈ path.written, isTail c = false := by
    cases path with
    | whole text => exact hpath.2.1
    | segments parts =>
      intro c hc
      obtain ⟨part, hpart, hc⟩ := List.mem_flatMap.mp hc
      rcases List.mem_cons.mp hc with rfl | hc
      · decide
      · exact isTail_of_isDelimiter ((hpath.1 part hpart).1 c hc)
  cases site with
  | some s =>
    refine List.forall_mem_cons.mpr ⟨by decide, List.forall_mem_cons.mpr ⟨by decide, ?_⟩⟩
    refine List.forall_mem_append.mpr ⟨fun c hc => ?_, hwritten⟩
    exact isTail_of_isDelimiter (hsite s rfl c hc)
  | none =>
    refine List.forall_mem_append.mpr ⟨?_, hwritten⟩
    unfold Path.guard
    split <;> simp [isTail]

/-- An optional part of a URL behind its mark. -/
theorem behind_elim (mark : Char) (part : Option String) :
    behind mark (part.elim [] (mark :: ·.toList)) = part := by
  cases part <;> simp [behind]

theorem stops_elim {p : Char → Bool} {mark : Char} (h : p mark = false) (part : Option String) :
    Text.Stops p (part.elim [] (mark :: ·.toList)) := by
  cases part with
  | none => exact Text.stops_nil p
  | some s => exact Text.stops_cons.mpr h

/-- The text of a tidy URL tells its outline. -/
theorem Tidy.ofText_text {u : Url} (h : u.Tidy) : Outline.ofText u.text.toList = u.outline := by
  have hscheme : ∀ c ∈ u.scheme.toList, decide (c ≠ ':') = true := by
    intro c hc
    simp only [ne_eq, decide_eq_true_eq]
    rintro rfl
    exact h.scheme hc
  have hcolon : Text.Stops (· ≠ ':') (':' :: (front u.site u.path ++ u.outline.tail)) :=
    Text.stops_cons.mpr (by decide)
  have hfront : ∀ c ∈ front u.site u.path, (!isTail c) = true := by
    intro c hc
    simp [isTail_front h.site h.path c hc]
  have hquery : ∀ c ∈ u.query.elim [] ('?' :: ·.toList), decide (c ≠ '#') = true := by
    cases hq : u.query with
    | none => exact fun c hc => absurd hc List.not_mem_nil
    | some q =>
      refine List.forall_mem_cons.mpr ⟨by decide, fun c hc => ?_⟩
      simp only [ne_eq, decide_eq_true_eq]
      rintro rfl
      exact h.query q hq hc
  have hfragment : Text.Stops (· ≠ '#') (u.fragment.elim [] ('#' :: ·.toList)) :=
    stops_elim (by decide) u.fragment
  have htail : Text.Stops (!isTail ·) u.outline.tail := by
    show Text.Stops _ (u.query.elim [] _ ++ u.fragment.elim [] _)
    cases u.query with
    | none => exact stops_elim (by decide) u.fragment
    | some q => exact Text.stops_cons.mpr (by decide)
  have htail_eq : u.outline.tail =
      u.query.elim [] ('?' :: ·.toList) ++ u.fragment.elim [] ('#' :: ·.toList) := rfl
  unfold Outline.ofText
  rw [text_eq]
  simp only [Text.takeWhile_append_of_stops hscheme hcolon,
    Text.dropWhile_append_of_stops hscheme hcolon, List.drop_one, List.tail_cons,
    Text.takeWhile_append_of_stops hfront htail, Text.dropWhile_append_of_stops hfront htail,
    frontOf_front h.site h.path, String.ofList_toList]
  rw [htail_eq, Text.takeWhile_append_of_stops hquery hfragment,
    Text.dropWhile_append_of_stops hquery hfragment, behind_elim, behind_elim]
  rfl

theorem Tidy.outline_eq {u v : Url} (hu : u.Tidy) (hv : v.Tidy) (h : u.text = v.text) :
    u.outline = v.outline := by
  rw [← hu.ofText_text, ← hv.ofText_text, h]

theorem text_eq_of_outline_eq {u v : Url} (h : u.outline = v.outline) : u.text = v.text := by
  have hscheme : u.scheme = v.scheme := congrArg Outline.scheme h
  have hsite : u.site = v.site := congrArg Outline.site h
  have hpath : u.path = v.path := congrArg Outline.path h
  apply String.toList_inj.mp
  rw [text_eq, text_eq, hscheme, hsite, hpath, h]

end Playpen.Url
