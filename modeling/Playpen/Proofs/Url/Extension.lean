import Playpen.Proofs.Url.Origin

/-!
# Addresses that go on from a base

Putting a path behind a base and reading the whole is done without looking at
the base.  For a base of the web without query and fragment it is right
(`parse_goes_on`): the address has the base's scheme, user, host and port, and
the pieces put behind it are read from where the base ends, so what a piece does
to the path is the same for all bases.  Pieces that are not `.` or `..` become
segments (`readSegments_of_stays`).
-/

namespace Playpen.Url

/-! ## Pieces of a path -/

section

variable {special : Bool} {xs ys cs : List Char}

/-- The path behind a piece that is not the last one. -/
def enter (parts : List String) (piece : List Char) : List String :=
  if isDoubleDot piece then shorten false parts
  else if isSingleDot piece then parts
  else parts ++ [String.ofList (encodeWith pathSet piece)]

/-- The piece is no step within the path. -/
def Stays (piece : List Char) : Prop := isDoubleDot piece = false ∧ isSingleDot piece = false

instance (piece : List Char) : Decidable (Stays piece) :=
  inferInstanceAs (Decidable (_ ∧ _))

theorem readSegments_cons {more : List (List Char)} (hmore : more ≠ []) (piece : List Char)
    (parts : List String) : readSegments special false (piece :: more) parts =
      readSegments special false more (enter parts piece) := by
  have hlast : more.isEmpty = false := List.isEmpty_eq_false_iff.mpr hmore
  rw [readSegments, enter, hlast]
  split
  · rfl
  · split
    · rfl
    · rfl

theorem readSegments_append {more : List (List Char)} (hmore : more ≠ [])
    (pieces : List (List Char)) (parts : List String) :
    readSegments special false (pieces ++ more) parts =
      readSegments special false more (pieces.foldl enter parts) := by
  induction pieces generalizing parts with
  | nil => rfl
  | cons piece pieces ih =>
    rw [List.cons_append, readSegments_cons (List.append_ne_nil_of_right_ne_nil _ hmore), ih,
      List.foldl_cons]

theorem readSegments_of_stays {pieces : List (List Char)} (h : ∀ piece ∈ pieces, Stays piece)
    (parts : List String) : readSegments special false pieces parts =
      parts ++ pieces.map fun piece => String.ofList (encodeWith pathSet piece) := by
  induction pieces generalizing parts with
  | nil => simp [readSegments]
  | cons piece pieces ih =>
    obtain ⟨⟨hdouble, hsingle⟩, hpieces⟩ := List.forall_mem_cons.mp h
    rw [readSegments]
    simp only [hdouble, hsingle, Bool.false_and, Bool.false_eq_true, if_false]
    rw [ih hpieces, List.map_cons, List.append_assoc]
    rfl

theorem splitPath_slash (cs : List Char) :
    splitPath special ('/' :: cs) = [] :: splitPath special cs := by
  rw [splitPath]
  exact if_pos rfl

theorem splitPath_cons {c : Char} (hc : isSlash special c = false) {piece : List Char}
    {pieces : List (List Char)} (h : splitPath special cs = piece :: pieces) :
    splitPath special (c :: cs) = (c :: piece) :: pieces := by
  rw [splitPath, hc, h]
  rfl

theorem exists_splitPath (special : Bool) (cs : List Char) :
    ∃ piece pieces, splitPath special cs = piece :: pieces :=
  List.exists_cons_of_ne_nil (splitPath_ne_nil special cs)

theorem splitPath_append (xs ys : List Char) :
    splitPath special (xs ++ '/' :: ys) = splitPath special xs ++ splitPath special ys := by
  induction xs with
  | nil => rw [List.nil_append, splitPath_slash]; rfl
  | cons c xs ih =>
    obtain ⟨piece, pieces, hxs⟩ := exists_splitPath special xs
    cases hc : isSlash special c with
    | true =>
      rw [List.cons_append, splitPath, splitPath, hc, ih]
      rfl
    | false =>
      rw [List.cons_append, splitPath_cons hc hxs]
      rw [hxs] at ih
      rw [splitPath_cons hc ih]
      rfl

/-- The pieces of a text, encoded, are those of the encoded text. -/
theorem flatMap_splitPath (h : '\\' ∉ cs) :
    ((splitPath true cs).flatMap fun piece => '/' :: encodeWith pathSet piece) =
      '/' :: encodeWith pathSet cs := by
  induction cs with
  | nil => rfl
  | cons c cs ih =>
    rw [List.mem_cons, not_or] at h
    obtain ⟨hc, hcs⟩ := h
    have hcode : encodeWith pathSet (c :: cs) =
        encodeWith pathSet [c] ++ encodeWith pathSet cs := by simp [encodeWith]
    by_cases hslash : c = '/'
    · subst hslash
      rw [splitPath_slash, List.flatMap_cons, ih hcs, hcode]
      rfl
    · obtain ⟨piece, pieces, hsplit⟩ := exists_splitPath true cs
      have hnot : isSlash true c = false := by
        simp [isSlash, hslash, Ne.symm hc]
      have hpiece : encodeWith pathSet (c :: piece) =
          encodeWith pathSet [c] ++ encodeWith pathSet piece := by simp [encodeWith]
      have hrest := ih hcs
      rw [hsplit, List.flatMap_cons, List.cons_append] at hrest
      rw [splitPath_cons hnot hsplit, List.flatMap_cons, hpiece, hcode, List.cons_append,
        List.append_assoc, (List.cons.inj hrest).2]

end

/-! ## Cuts -/

section

variable {p : Char → Bool} {xs ys cs rest : List Char} {scheme : String} {base : Url}

/-- What begins with a mark is cut off whole. -/
theorem cut_append (h : Text.Stops (!p ·) ys) (xs : List Char) :
    cut p (xs ++ ys) = ((cut p xs).1, (cut p xs).2 ++ ys) := by
  induction xs with
  | nil =>
    cases ys with
    | nil => rfl
    | cons c ys => simp [cut, Text.stops_cons.mp h]
  | cons c xs ih =>
    unfold cut at ih ⊢
    obtain ⟨htake, hdrop⟩ := Prod.mk.inj ih
    rw [List.cons_append, List.takeWhile_cons, List.takeWhile_cons, List.dropWhile_cons,
      List.dropWhile_cons]
    split
    · rw [htake, hdrop]
    · rfl

theorem cut_of_free (h : ∀ c ∈ cs, p c = false) : cut p cs = (cs, []) := by
  unfold cut
  rw [List.takeWhile_eq_self_iff.mpr fun c hc => by simp [h c hc],
    List.dropWhile_eq_nil_iff.mpr fun c hc => by simp [h c hc]]

/-- A URL without query and fragment is written without their marks. -/
theorem isTail_of_withTail {u : Url} (hquery : (withTail u (cut isTail cs).2).query = none)
    (hfragment : (withTail u (cut isTail cs).2).fragment = none) : ∀ c ∈ cs, isTail c = false := by
  have hrest : (cut isTail cs).2 = [] := by
    cases htail : (cut isTail cs).2 with
    | nil => rfl
    | cons c more =>
      have hc : isTail c = true := by
        have hhead := List.head?_dropWhile_not (!isTail ·) cs
        rw [show cs.dropWhile (!isTail ·) = c :: more from htail] at hhead
        simpa using hhead
      rw [htail] at hquery hfragment
      simp only [isTail, Bool.or_eq_true, decide_eq_true_eq] at hc
      rcases hc with rfl | rfl
      · simp [withTail, cut] at hquery
      · simp [withTail, cut] at hfragment
  intro c hc
  have hdrop := List.dropWhile_eq_nil_iff.mp hrest c hc
  simpa using hdrop

/-- What the scheme of a URL is written with. -/
def inScheme (c : Char) : Bool :=
  Text.isAsciiLetter c || Text.isDigit c || c = '+' || c = '-' || c = '.'

/-- The word before the colon of a URL. -/
def IsSchemeWord (word : List Char) : Prop :=
  (∃ c, word.head? = some c ∧ Text.isAsciiLetter c = true) ∧ ∀ c ∈ word, inScheme c = true

theorem cutScheme_cons (c : Char) (more : List Char) : cutScheme (c :: more) =
    if Text.isAsciiLetter c then
      match (c :: more).dropWhile inScheme with
      | ':' :: rest => some (String.ofList (lowerAscii ((c :: more).takeWhile inScheme)), rest)
      | _ => none
    else none := rfl

theorem cutScheme_eq_some_iff : cutScheme cs = some (scheme, rest) ↔
    ∃ word, cs = word ++ ':' :: rest ∧ IsSchemeWord word ∧
      scheme = String.ofList (lowerAscii word) := by
  constructor
  · intro h
    cases hcs : cs with
    | nil =>
      rw [hcs] at h
      cases h
    | cons c more =>
      rw [hcs, cutScheme_cons, ← hcs] at h
      split at h
      · rename_i hletter
        split at h
        · rename_i rest' hdrop
          cases h
          have hsplit := List.takeWhile_append_dropWhile (p := inScheme) (l := cs)
          rw [hdrop] at hsplit
          refine ⟨cs.takeWhile inScheme, by rw [← hcs, hsplit], ⟨⟨c, ?_, hletter⟩, ?_⟩, rfl⟩
          · rw [hcs, List.takeWhile_cons, if_pos (by simp [inScheme, hletter])]
            rfl
          · exact fun d hd => List.mem_takeWhile_imp hd
        · cases h
      · cases h
  · rintro ⟨word, hcs, ⟨⟨c, hhead, hletter⟩, hword⟩, rfl⟩
    obtain ⟨more, rfl⟩ : ∃ more, word = c :: more := by
      cases word with
      | nil => cases hhead
      | cons d more => exact ⟨more, by rw [Option.some.inj hhead]⟩
    have hstops : Text.Stops inScheme (':' :: rest) := Text.stops_cons.mpr (by decide)
    rw [hcs, List.cons_append, cutScheme_cons, if_pos hletter, ← List.cons_append,
      Text.dropWhile_append_of_stops hword hstops, Text.takeWhile_append_of_stops hword hstops]
    rfl

/-- Slashes at the end of a text leave its scheme alone. -/
theorem cutScheme_append (hys : ∀ c ∈ ys, c = '/')
    (h : cutScheme (xs ++ ys) = some (scheme, rest)) :
    ∃ more, rest = more ++ ys ∧ ∀ zs, cutScheme (xs ++ zs) = some (scheme, more ++ zs) := by
  have hcolon : ∀ front, ys ≠ front ++ ':' :: rest := by
    rintro front rfl
    exact absurd (hys ':' (by simp)) (by decide)
  obtain ⟨word, hsplit, hword, rfl⟩ := cutScheme_eq_some_iff.mp h
  rcases List.append_eq_append_iff.mp hsplit with ⟨z, hz, hys'⟩ | ⟨z, hxs, hz⟩
  · exact absurd hys' (hcolon z)
  · cases z with
    | nil => exact absurd hz.symm (hcolon [])
    | cons c more =>
      rw [List.cons_append] at hz
      obtain ⟨rfl, hrest⟩ := List.cons.inj hz
      refine ⟨more, hrest, fun zs => cutScheme_eq_some_iff.mpr ⟨word, ?_, hword, rfl⟩⟩
      rw [hxs, List.append_assoc, List.cons_append]

/-! ## Authorities -/

theorem withTail_nil (u : Url) : withTail u [] = { u with query := none, fragment := none } := rfl

theorem authorityPath_slash (hscheme : scheme ≠ "file") (hspecial : Url.isSpecial scheme = true)
    {c : Char} (hc : isSlash true c = true) :
    authorityPath scheme (c :: cs) = readSegments true false (splitPath true cs) [] := by
  rw [authorityPath, hspecial, if_pos hc, pathFrom, hspecial]
  simp [hscheme]

/-- Behind a path that ends in a slash, or that has none at all, reading goes on
from where it leads. -/
theorem exists_authorityPath (hscheme : scheme ≠ "file") (hspecial : Url.isSpecial scheme = true)
    (h : Text.Stops (fun c => !isSlash true c) cs) :
    ∃ parts, ∀ ys, authorityPath scheme (cs ++ '/' :: ys) =
      readSegments true false (splitPath true ys) parts := by
  cases cs with
  | nil => exact ⟨[], fun ys => authorityPath_slash hscheme hspecial rfl⟩
  | cons c cs =>
    have hc : isSlash true c = true := by simpa using Text.stops_cons.mp h
    refine ⟨(splitPath true cs).foldl enter [], fun ys => ?_⟩
    rw [List.cons_append, authorityPath_slash hscheme hspecial hc, splitPath_append,
      readSegments_append (splitPath_ne_nil true ys)]

/-- Where an authority ends. -/
def endsAuthority (c : Char) : Bool := isSlash true c || isTail c

theorem stops_authority {c : Char} (hc : c = '/') (cs : List Char) :
    Text.Stops (!endsAuthority ·) (c :: cs) := by
  rw [hc]
  exact Text.stops_cons.mpr rfl

theorem readAuthority_goes_on (hscheme : scheme ≠ "file") (hspecial : Url.isSpecial scheme = true)
    (hys : ∀ c ∈ ys, c = '/') (h : readAuthority scheme (xs ++ ys) = .ok base)
    (hquery : base.query = none) (hfragment : base.fragment = none) :
    ∃ parts, ∀ zs, (∀ c ∈ zs, isTail c = false) → readAuthority scheme (xs ++ '/' :: zs) =
      .ok { base with path := .segments (readSegments true false (splitPath true zs) parts) } := by
  have hends : (fun c => isSlash (Url.isSpecial scheme) c || isTail c) = endsAuthority := by
    rw [hspecial]
    rfl
  have hstops : Text.Stops (!endsAuthority ·) ys := by
    cases ys with
    | nil => exact Text.stops_nil _
    | cons c ys => exact stops_authority (hys c List.mem_cons_self) ys
  unfold readAuthority at h
  rw [hends, cut_append hstops] at h
  dsimp only at h
  split at h
  · cases h
  · rename_i hnamed
    obtain ⟨⟨host, port⟩, hread, h⟩ := bind_eq_ok.mp h
    cases h
    have hfree := isTail_of_withTail hquery hfragment
    obtain ⟨hrest, -⟩ := List.forall_mem_append.mp hfree
    have hpath : Text.Stops (fun c => !isSlash true c) (cut endsAuthority xs).2 := by
      intro c hc
      have hend : (!endsAuthority c) = false := Text.stops_dropWhile (!endsAuthority ·) xs c hc
      have hmore : isTail c = false := hrest c (List.mem_of_mem_head? hc)
      simpa [endsAuthority, hmore] using hend
    obtain ⟨parts, hparts⟩ := exists_authorityPath hscheme hspecial hpath
    refine ⟨parts, fun zs hzs => ?_⟩
    have hslashes : ∀ c ∈ (cut endsAuthority xs).2 ++ '/' :: zs, isTail c = false :=
      List.forall_mem_append.mpr ⟨hrest, List.forall_mem_cons.mpr ⟨rfl, hzs⟩⟩
    unfold readAuthority
    rw [hends, cut_append (stops_authority rfl zs)]
    dsimp only
    rw [if_neg, hread, cut_of_free hslashes]
    · show Except.ok _ = _
      dsimp only
      rw [hparts, withTail_nil, cut_of_free hfree, withTail_nil]
    · -- without a host the base could not have been read
      rintro ⟨-, hempty, -⟩
      rw [List.isEmpty_iff.mp hempty, readHostPort_nil hspecial] at hread
      cases hread

theorem readAuthority_nil (hspecial : Url.isSpecial scheme = true) :
    readAuthority scheme [] ≠ .ok base := by
  intro h
  obtain ⟨hostport, hread⟩ := (readAuthority_ok_iff hspecial).mp ⟨base, h⟩
  have hnil : readHostPort scheme (readLogin none) [] = .ok hostport := hread
  rw [readHostPort_nil hspecial] at hnil
  cases hnil

/-! ## Addresses -/

/-- What is dropped at the ends of an address. -/
def isEdge (c : Char) : Bool := c.toNat ≤ 0x20

/-- What is dropped anywhere in an address. -/
def isBreak (c : Char) : Bool := c = '\t' || c = '\n' || c = '\r'

/-- What stands at the beginning of an address is cleaned alike, whatever is put
behind it. -/
theorem exists_cleaned (xs : List Char) :
    ∃ kept, ∀ {s : String} {ys : List Char}, s.toList = xs ++ ys → Text.Stops isEdge ys →
      Text.Stops isEdge s.toList.reverse → (∀ c ∈ ys, isBreak c = false) → cleaned s = kept ++ ys := by
  refine ⟨(xs.dropWhile isEdge).filter (!isBreak ·), fun {s ys} hs hys hend hbreak => ?_⟩
  have hsplit : s.toList = xs.takeWhile isEdge ++ (xs.dropWhile isEdge ++ ys) ++ [] := by
    rw [List.append_nil, ← List.append_assoc, List.takeWhile_append_dropWhile, hs]
  have hfirst : Text.Stops isEdge (xs.dropWhile isEdge ++ ys) :=
    Text.stops_append (Text.stops_dropWhile isEdge xs) hys
  have hlast : Text.Stops isEdge (xs.dropWhile isEdge ++ ys).reverse := by
    rw [hsplit, List.append_nil, List.reverse_append] at hend
    exact Text.stops_of_append hend
  have htrim : Text.trimBy isEdge s.toList = xs.dropWhile isEdge ++ ys := by
    rw [hsplit]
    exact Text.trimBy_append_of_stops (fun c hc => List.mem_takeWhile_imp hc) hfirst hlast
      fun c hc => absurd hc List.not_mem_nil
  have hvisible : (fun c : Char => decide (c ≠ '\t') && decide (c ≠ '\n') && decide (c ≠ '\r')) =
      (!isBreak ·) := by
    funext c
    simp [isBreak]
  show (Text.trimBy isEdge s.toList).filter _ = _
  have hkept : ys.filter (!isBreak ·) = ys :=
    List.filter_eq_self.mpr fun c hc => by simp [hbreak c hc]
  rw [htrim, hvisible, List.filter_append, hkept]

theorem scheme_readAfterScheme (h : readAfterScheme none scheme cs = .ok base) :
    base.scheme = scheme := by
  unfold readAfterScheme at h
  split at h
  · rename_i hfile
    rw [hfile]
    refine scheme_readFile ?_ h
    intro b hb
    cases hb
  · split at h
    · exact (readAuthority_kept h).1
    · split at h
      · exact (readAuthority_kept h).1
      · cases h
        rfl
      · cases h
        rfl

/-- A text behind a base of the web and a slash is read from where the base ends.
The slashes at the end of the base do not count. -/
theorem parse_goes_on {s d : String} (hs : s.toList = d.toList ++ ys) (hys : ∀ c ∈ ys, c = '/')
    (hend : Text.Stops isEdge s.toList.reverse) (hbase : parse s = .ok base) (hweb : base.IsWeb)
    (hquery : base.query = none) (hfragment : base.fragment = none) :
    ∃ parts, ∀ t : String, (∀ c ∈ t.toList, isTail c = false ∧ isBreak c = false) →
      Text.Stops isEdge t.toList.reverse → parse (d ++ "/" ++ t) =
        .ok { base with
          path := .segments (readSegments true false (splitPath true t.toList) parts) } := by
  obtain ⟨kept, hkept⟩ := exists_cleaned d.toList
  have hclean : cleaned s = kept ++ ys := by
    refine hkept hs (fun c hc => ?_) hend fun c hc => ?_
    · rw [hys c (List.mem_of_mem_head? hc)]
      rfl
    · rw [hys c hc]
      rfl
  unfold parse resolve at hbase
  rw [hclean] at hbase
  dsimp only at hbase
  split at hbase
  · rename_i scheme rest hcut
    obtain ⟨more, rfl, hmore⟩ := cutScheme_append hys hcut
    have hscheme : base.scheme = scheme := scheme_readAfterScheme hbase
    have hfile : scheme ≠ "file" := hscheme ▸ hweb.ne_file
    have hspecial : Url.isSpecial scheme = true := hscheme ▸ hweb.isSpecial
    have hafter : ∀ cs, readAfterScheme none scheme cs =
        readAuthority scheme (cs.dropWhile (isSlash true)) := by
      intro cs
      unfold readAfterScheme
      rw [if_neg hfile, if_pos hspecial]
    have hslashes : ys.dropWhile (isSlash true) = [] :=
      List.dropWhile_eq_nil_iff.mpr fun c hc => by rw [hys c hc]; rfl
    rw [hafter, List.dropWhile_append] at hbase
    split at hbase
    · rw [hslashes] at hbase
      exact absurd hbase (readAuthority_nil hspecial)
    · rename_i hsite
      obtain ⟨parts, hparts⟩ := readAuthority_goes_on hfile hspecial hys hbase hquery hfragment
      refine ⟨parts, fun t ht hlast => ?_⟩
      have haddress : cleaned (d ++ "/" ++ t) = kept ++ '/' :: t.toList := by
        refine hkept (by simp) (Text.stops_cons.mpr rfl) ?_
          (List.forall_mem_cons.mpr ⟨rfl, fun c hc => (ht c hc).2⟩)
        have hreverse : (d ++ "/" ++ t).toList.reverse =
            t.toList.reverse ++ '/' :: d.toList.reverse := by simp
        rw [hreverse]
        exact Text.stops_append hlast (Text.stops_cons.mpr rfl)
      unfold parse resolve
      rw [haddress]
      dsimp only
      rw [hmore]
      dsimp only
      rw [hafter, List.dropWhile_append, if_neg hsite, hparts _ fun c hc => (ht c hc).1]
  · cases hbase

/-- The URL of a text whose pieces become segments behind those of a base. -/
def below (base : Url) (parts : List String) (cs : List Char) : Url :=
  { base with
    path := .segments
      (parts ++ (splitPath true cs).map fun piece => String.ofList (encodeWith pathSet piece)) }

theorem below_eq {parts : List String} (h : ∀ piece ∈ splitPath true cs, Stays piece) :
    { base with path := .segments (readSegments true false (splitPath true cs) parts) } =
      below base parts cs := by
  rw [readSegments_of_stays h, below]

/-- The path is the base's path, and the text as it is written in a path. -/
theorem toList_pathText_below (parts : List String) (h : '\\' ∉ cs) :
    (below base parts cs).pathText.toList =
      (Path.segments parts).written ++ '/' :: encodeWith pathSet cs := by
  rw [toList_pathText, below, Path.written, Path.written, List.flatMap_append, List.flatMap_map,
    ← flatMap_splitPath h]
  simp only [String.toList_ofList]

end

end Playpen.Url
