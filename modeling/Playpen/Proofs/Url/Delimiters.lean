import Playpen.Proofs.Except
import Playpen.Url.Basic
import Mathlib.Data.List.Basic

/-!
# What the parts of a URL are written with

The written form of a URL is taken apart again at the delimiters, `/`, `?` and
`#`, so no part but the delimiters themselves may be written with one.  That is
what the sets of percent encoding are for, and what the readers of hosts and of
paths see to: a text without delimiters is `Plain`, and so is what any of them
writes.

A path may have no segment `.` either.  In the written form that is the segment
in front of a path that would otherwise look like an authority.
-/

namespace Playpen.Url

/-- The characters between the parts of a URL, behind the colon of its
scheme. -/
def isDelimiter (c : Char) : Bool := c = '/' || isTail c

/-- Text without delimiters. -/
def Plain (cs : List Char) : Prop := ∀ c ∈ cs, isDelimiter c = false

instance (cs : List Char) : Decidable (Plain cs) :=
  List.decidableBAll _ cs

section

variable {xs ys cs : List Char}

/-- What is outside a set that takes in the delimiters is none of them. -/
theorem isDelimiter_of_not_mem (set : Char → Bool) (hset : ['/', '?', '#'].all set = true)
    {c : Char} (h : set c = false) : isDelimiter c = false := by
  cases hc : isDelimiter c with
  | false => rfl
  | true =>
    have hmem : c ∈ ['/', '?', '#'] := by simpa [isDelimiter, isTail] using hc
    rw [List.all_eq_true.mp hset c hmem] at h
    cases h

theorem plain_nil : Plain [] := fun _ h => absurd h List.not_mem_nil

theorem plain_cons {c : Char} : Plain (c :: cs) ↔ isDelimiter c = false ∧ Plain cs :=
  List.forall_mem_cons

theorem plain_append : Plain (xs ++ ys) ↔ Plain xs ∧ Plain ys := List.forall_mem_append

/-- What a separator without delimiters joins is without delimiters when the
pieces are. -/
theorem plain_intercalate {sep : List Char} {pieces : List (List Char)} (hsep : Plain sep)
    (hpieces : ∀ piece ∈ pieces, Plain piece) : Plain (sep.intercalate pieces) := by
  induction pieces with
  | nil => exact plain_nil
  | cons piece rest ih =>
    obtain ⟨hpiece, hrest⟩ := List.forall_mem_cons.mp hpieces
    cases rest with
    | nil => simpa [List.intercalate] using hpiece
    | cons next rest =>
      have hjoined : sep.intercalate (piece :: next :: rest) =
          piece ++ (sep ++ sep.intercalate (next :: rest)) := by
        simp [List.intercalate]
      rw [hjoined, plain_append, plain_append]
      exact ⟨hpiece, hsep, ih hrest⟩

/-- Unlike a delimiter, a dot does not end a part, but the segment `.` has a
meaning of its own. -/
def isPunctuation (c : Char) : Bool := isDelimiter c || c = '.'

/-! ## Percent encoding and numbers -/

theorem isPunctuation_hexDigit :
    ∀ n < 16, isPunctuation (Char.ofNat (if n < 10 then 48 + n else 55 + n)) = false := by
  decide

theorem isPunctuation_of_mem_percentByte {b : UInt8} {c : Char} (h : c ∈ percentByte b) :
    isPunctuation c = false := by
  have hb := b.toNat_lt
  rcases List.mem_cons.mp h with rfl | h
  · decide
  · rcases List.mem_cons.mp h with rfl | h
    · exact isPunctuation_hexDigit _ (by omega)
    · rw [List.mem_singleton.mp h]
      exact isPunctuation_hexDigit _ (by omega)

/-- A character of an encoded text stands for itself, or belongs to the code of
another. -/
theorem mem_encodeWith {set : Char → Bool} {c : Char} (h : c ∈ encodeWith set cs) :
    (c ∈ cs ∧ set c = false) ∨ isPunctuation c = false := by
  obtain ⟨d, hd, hc⟩ := List.mem_flatMap.mp h
  split at hc
  · obtain ⟨b, -, hb⟩ := List.mem_flatMap.mp hc
    exact Or.inr (isPunctuation_of_mem_percentByte hb)
  · rename_i hset
    rw [List.mem_singleton.mp hc]
    exact Or.inl ⟨hd, by simpa using hset⟩

theorem isDelimiter_of_isPunctuation {c : Char} (h : isPunctuation c = false) :
    isDelimiter c = false := (Bool.or_eq_false_iff.mp h).1

theorem plain_encodeWith {set : Char → Bool}
    (h : ∀ c ∈ cs, set c = false → isDelimiter c = false) : Plain (encodeWith set cs) := by
  intro c hc
  rcases mem_encodeWith hc with ⟨hmem, hset⟩ | hcode
  · exact h c hmem hset
  · exact isDelimiter_of_isPunctuation hcode

theorem toList_loop (bytes : ByteArray) (i : Nat) (read : List UInt8) :
    ByteArray.toList.loop bytes i read = read.reverse ++ bytes.data.toList.drop i := by
  fun_induction ByteArray.toList.loop bytes i read with
  | case1 i read hmore ih =>
    have hlength : i < bytes.data.toList.length := by simpa using hmore
    have hget : bytes.get! i = bytes.data.toList[i] := by
      rw [ByteArray.get!, getElem!_pos bytes.data i hmore]
      rfl
    rw [ih, List.drop_eq_getElem_cons hlength, hget, List.reverse_cons, List.append_assoc]
    rfl
  | case2 i read hdone =>
    rw [List.drop_eq_nil_of_le (by simpa using hdone), List.append_nil]

theorem toList_toUTF8_singleton (c : Char) :
    (String.singleton c).toUTF8.toList = String.utf8EncodeChar c := by
  rw [String.toUTF8_eq_toByteArray, String.toByteArray_singleton, List.utf8Encode_singleton,
    ByteArray.toList, toList_loop, List.drop_zero, List.toList_data_toByteArray, List.reverse_nil,
    List.nil_append]

/-- Every character is written with at least one. -/
theorem length_le_encodeWith (set : Char → Bool) (cs : List Char) :
    cs.length ≤ (encodeWith set cs).length := by
  induction cs with
  | nil => exact Nat.zero_le _
  | cons c cs ih =>
    have hcode : 0 < (if set c then (String.singleton c).toUTF8.toList.flatMap percentByte
        else [c]).length := by
      split
      · have hbytes : 0 < (String.singleton c).toUTF8.toList.length := by
          rw [toList_toUTF8_singleton, String.length_utf8EncodeChar]
          exact c.utf8Size_pos
        obtain ⟨b, bs, hcons⟩ := List.exists_cons_of_length_pos hbytes
        rw [hcons]
        simp [percentByte]
      · exact Nat.one_pos
    rw [encodeWith, List.flatMap_cons, List.length_append, List.length_cons, Nat.add_comm]
    exact Nat.add_le_add hcode ih

/-- Only what begins with a delimiter or a dot is written with one in front. -/
theorem head?_encodeWith {set : Char → Bool} {c : Char} (hc : isPunctuation c = true)
    (h : (encodeWith set cs).head? = some c) : cs.head? = some c := by
  cases cs with
  | nil => cases h
  | cons d cs =>
    have hcode : encodeWith set (d :: cs) = encodeWith set [d] ++ encodeWith set cs := by
      simp [encodeWith]
    obtain ⟨e, code, he⟩ := List.exists_cons_of_length_pos (length_le_encodeWith set [d])
    rw [hcode, he] at h
    cases h
    have hmem : c ∈ encodeWith set [d] := by
      rw [he]
      exact List.mem_cons_self
    rcases mem_encodeWith hmem with ⟨hd, -⟩ | hcode
    · rw [List.mem_singleton.mp hd]
      rfl
    · rw [hc] at hcode
      cases hcode

/-- Only a dot is written as one. -/
theorem eq_dot_of_encodeWith {set : Char → Bool} (h : encodeWith set cs = ['.']) : cs = ['.'] := by
  have hlength := length_le_encodeWith set cs
  have hdot : '.' ∈ encodeWith set cs := by
    rw [h]
    exact List.mem_singleton_self _
  rcases mem_encodeWith hdot with ⟨hmem, -⟩ | hpunctuation
  · rw [h] at hlength
    match cs, hmem, hlength with
    | [c], hmem, _ => rw [List.mem_singleton.mp hmem]
  · exact absurd hpunctuation (by decide)

theorem isDelimiter_digitChar : ∀ d < 16, isDelimiter (Nat.digitChar d) = false := by
  decide

theorem plain_toDigits {radix : Nat} (hlo : 1 < radix) (hhi : radix ≤ 16) (n : Nat) :
    Plain (Nat.toDigits radix n) := by
  induction n using Nat.strongRecOn with
  | ind n ih =>
    rw [Nat.toDigits_eq_if hlo]
    split
    · rename_i hlast
      exact plain_cons.mpr ⟨isDelimiter_digitChar n (by omega), plain_nil⟩
    · rename_i hmore
      have hdigit : n % radix < 16 := Nat.lt_of_lt_of_le (Nat.mod_lt n (by omega)) hhi
      have hless : n / radix < n := Nat.div_lt_self (by omega) hlo
      rw [plain_append]
      exact ⟨ih _ hless, plain_cons.mpr ⟨isDelimiter_digitChar _ hdigit, plain_nil⟩⟩

theorem plain_toString (n : Nat) : Plain (toString n).toList := by
  rw [Nat.toString_eq_ofList_toDigits, String.toList_ofList]
  exact plain_toDigits (by omega) (by omega) n

/-! ## Hosts -/

theorem plain_ipv4Text (n : Nat) : Plain (ipv4Text n).toList := by
  rw [ipv4Text, String.toList_intercalate]
  apply plain_intercalate (by decide)
  intro piece hpiece
  obtain ⟨text, htext, rfl⟩ := List.mem_map.mp hpiece
  obtain ⟨byte, -, rfl⟩ := List.mem_map.mp htext
  exact plain_toString byte

theorem plain_ipv6Text (pieces : List Nat) : Plain (ipv6Text pieces).toList := by
  have hgroups : ∀ groups : List Nat, Plain (":".intercalate
      (groups.map fun n => String.ofList (Nat.toDigits 16 n))).toList := by
    intro groups
    rw [String.toList_intercalate]
    apply plain_intercalate (by decide)
    intro piece hpiece
    obtain ⟨text, htext, rfl⟩ := List.mem_map.mp hpiece
    obtain ⟨n, -, rfl⟩ := List.mem_map.mp htext
    rw [String.toList_ofList]
    exact plain_toDigits (by omega) (by omega) n
  unfold ipv6Text
  dsimp only
  split
  · exact hgroups pieces
  · rw [String.toList_append, String.toList_append, plain_append, plain_append]
    exact ⟨⟨hgroups _, by decide⟩, hgroups _⟩

theorem plain_text_of_parseIPv6 {host : Host} (h : parseIPv6 cs = .ok host) :
    Plain host.text.toList := by
  unfold parseIPv6 at h
  dsimp only at h
  split at h
  · cases h
    rw [Host.text, String.toList_append, String.toList_append, plain_append, plain_append]
    exact ⟨⟨by decide, plain_ipv6Text _⟩, by decide⟩
  · cases h

theorem plain_of_domainToAscii {ascii : List Char} (h : domainToAscii cs = .ok ascii) :
    Plain ascii := by
  unfold domainToAscii at h
  split at h
  · split at h
    · cases h
    · rename_i hclean
      cases h
      intro c hc
      refine isDelimiter_of_not_mem forbiddenInDomain (by decide) ?_
      simpa using fun hforbidden => hclean (List.any_eq_true.mpr ⟨c, hc, hforbidden⟩)
  · cases h

theorem plain_text_of_parse {host : Host} (h : Host.parse cs = .ok host) :
    Plain host.text.toList := by
  unfold Host.parse at h
  split at h
  · split at h
    · exact plain_text_of_parseIPv6 h
    · cases h
  · dsimp only at h
    split at h
    · cases h
    · obtain ⟨ascii, hascii, h⟩ := bind_eq_ok.mp h
      split at h
      · cases h
      · split at h
        · obtain ⟨n, -, h⟩ := bind_eq_ok.mp h
          cases h
          exact plain_ipv4Text n
        · cases h
          rw [Host.text, String.toList_ofList]
          exact plain_of_domainToAscii hascii

theorem plain_text_of_parseOpaque {host : Host} (h : Host.parseOpaque cs = .ok host) :
    Plain host.text.toList := by
  unfold Host.parseOpaque at h
  split at h
  · split at h
    · exact plain_text_of_parseIPv6 h
    · cases h
  · split at h
    · cases h
    · rename_i hclean
      cases h
      rw [Host.text, String.toList_ofList]
      apply plain_encodeWith
      intro c hc _
      refine isDelimiter_of_not_mem forbiddenInOpaque (by decide) ?_
      simpa using fun hforbidden => hclean (List.any_eq_true.mpr ⟨c, hc, hforbidden⟩)

/-! ## Segments of a path -/

/-- What a path may have between two slashes. -/
def IsSegment (part : String) : Prop := Plain part.toList ∧ part ≠ "."

instance (part : String) : Decidable (IsSegment part) :=
  inferInstanceAs (Decidable (Plain part.toList ∧ part ≠ "."))

theorem isSegment_ofList (h : Plain cs) (hdot : cs ≠ ['.']) : IsSegment (String.ofList cs) := by
  refine ⟨by rwa [String.toList_ofList], fun heq => hdot ?_⟩
  have hchars := congrArg String.toList heq
  rwa [String.toList_ofList] at hchars

theorem ne_slash_of_mem_splitPath {special : Bool} :
    ∀ {cs : List Char}, ∀ piece ∈ splitPath special cs, ∀ c ∈ piece, c ≠ '/'
  | [], piece, hpiece, c, hc => by
      rw [splitPath, List.mem_singleton] at hpiece
      rw [hpiece] at hc
      cases hc
  | d :: rest, piece, hpiece, c, hc => by
      have ih : ∀ piece ∈ splitPath special rest, ∀ c ∈ piece, c ≠ '/' := ne_slash_of_mem_splitPath
      rw [splitPath] at hpiece
      split at hpiece
      · rcases List.mem_cons.mp hpiece with rfl | hpiece
        · cases hc
        · exact ih piece hpiece c hc
      · rename_i hslash
        have hd : d ≠ '/' := by
          rintro rfl
          exact hslash (by simp [isSlash])
        split at hpiece
        · rename_i first pieces hsplit
          rw [hsplit] at ih
          rcases List.mem_cons.mp hpiece with rfl | hpiece
          · rcases List.mem_cons.mp hc with rfl | hc
            · exact hd
            · exact ih first List.mem_cons_self c hc
          · exact ih piece (List.mem_cons_of_mem first hpiece) c hc
        · rw [List.mem_singleton.mp hpiece, List.mem_singleton] at hc
          rw [hc]
          exact hd

theorem splitPath_ne_nil (special : Bool) (cs : List Char) : splitPath special cs ≠ [] := by
  cases cs with
  | nil => simp [splitPath]
  | cons c rest =>
    rw [splitPath]
    split
    · simp
    · split <;> simp

/-- A drive letter is a letter and a colon or bar. -/
theorem isSegment_drive (h : isDriveLetter cs = true) :
    IsSegment (String.ofList (cs.take 1 ++ [':'])) := by
  match cs, h with
  | [c, d], h =>
    simp only [isDriveLetter, Bool.and_eq_true] at h
    have hletter : isDelimiter c = false :=
      isDelimiter_of_not_mem (fun c => !Text.isAsciiLetter c) (by decide) (by simp [h.1])
    exact isSegment_ofList (plain_cons.mpr ⟨hletter, (by decide : Plain [':'])⟩) (by simp)

theorem isSegment_encodeWith (hslash : ∀ c ∈ cs, c ≠ '/') (hdot : isSingleDot cs = false) :
    IsSegment (String.ofList (encodeWith pathSet cs)) := by
  apply isSegment_ofList
  · apply plain_encodeWith
    intro c hc hset
    refine isDelimiter_of_not_mem (fun c => pathSet c || c = '/') (by decide) ?_
    simp [hset, hslash c hc]
  · intro heq
    rw [eq_dot_of_encodeWith heq] at hdot
    exact absurd hdot (by decide)

theorem shorten_subset (file : Bool) (parts : List String) : shorten file parts ⊆ parts := by
  unfold shorten
  split
  · exact fun part hpart => (List.mem_ite_nil_right.mp hpart).2
  · exact List.dropLast_subset parts

section

variable {special file : Bool}

/-- Reading a piece of a path adds a segment, or takes away from those there. -/
theorem isSegment_readSegments {pieces : List (List Char)} {parts : List String}
    (hpieces : ∀ piece ∈ pieces, ∀ c ∈ piece, c ≠ '/') (hparts : ∀ part ∈ parts, IsSegment part) :
    ∀ part ∈ readSegments special file pieces parts, IsSegment part := by
  induction pieces generalizing parts with
  | nil => exact hparts
  | cons seg rest ih =>
    obtain ⟨hseg, hrest⟩ := List.forall_mem_cons.mp hpieces
    have hends : ∀ {kept : List String}, (∀ part ∈ kept, IsSegment part) →
        ∀ part ∈ (if rest.isEmpty then kept ++ [""] else kept), IsSegment part := by
      intro kept hkept
      split
      · exact List.forall_mem_append.mpr ⟨hkept, by decide⟩
      · exact hkept
    rw [readSegments]
    dsimp only
    split
    · exact ih hrest (hends fun part hpart => hparts part (shorten_subset file parts hpart))
    · split
      · exact ih hrest (hends hparts)
      · rename_i hdot
        refine ih hrest (List.forall_mem_append.mpr ⟨hparts, ?_⟩)
        intro part hpart
        rw [List.mem_singleton.mp hpart]
        split
        · rename_i hdrive
          exact isSegment_drive (Bool.and_eq_true_iff.mp hdrive).2
        · exact isSegment_encodeWith hseg (by simpa using hdot)

/-- The last piece of a path leaves a segment, if only an empty one. -/
theorem readSegments_ne_nil {pieces : List (List Char)} {parts : List String}
    (h : pieces ≠ []) : readSegments special file pieces parts ≠ [] := by
  induction pieces generalizing parts with
  | nil => exact absurd rfl h
  | cons seg rest ih =>
    rw [readSegments]
    dsimp only
    by_cases hrest : rest = []
    · subst hrest
      split
      · simp [readSegments]
      · split <;> simp [readSegments]
    · split
      · exact ih hrest
      · split
        · exact ih hrest
        · exact ih hrest

end

theorem isSegment_pathFrom {scheme : String} {before : List String}
    (hbefore : ∀ part ∈ before, IsSegment part) :
    ∀ part ∈ pathFrom scheme before cs, IsSegment part := by
  have hread : ∀ part ∈ readSegments (isSpecial scheme) (scheme = "file")
      (splitPath (isSpecial scheme) cs) before, IsSegment part :=
    isSegment_readSegments ne_slash_of_mem_splitPath hbefore
  unfold pathFrom
  dsimp only
  split
  · split
    · decide
    · rename_i kept _ hkept
      intro part hpart
      exact hread part ((List.dropWhile_sublist _).subset hpart)
  · exact hread

theorem pathFrom_ne_nil (scheme : String) (before : List String) (cs : List Char) :
    pathFrom scheme before cs ≠ [] := by
  unfold pathFrom
  dsimp only
  split
  · split
    · simp
    · assumption
  · exact readSegments_ne_nil (splitPath_ne_nil _ cs)

end

end Playpen.Url
