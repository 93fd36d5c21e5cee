import Playpen.Terminal
import Playpen.Proofs.Display.Lines
import Playpen.Proofs.Display.Trees
import Playpen.Proofs.Runs.Reports

/-!
# Entries beside their gutter

An entry is written line by line, the first line behind the gutter of its kind and the
others behind a margin of the same width; inside a tree the margin is put behind every
line feed.  That is safe because a text of a value has line feeds between its parts
only, never inside a string or a key, so a tree with the margin is the same value
written three levels deeper (`Terminal.indented_prettyAt`).
-/

namespace Playpen

open Display (OneLine lines oneLine_append)

/-! ## Values break lines between their parts only -/

namespace Decimal

theorem oneLine_natText (n : Nat) : OneLine (natText n) := by
  refine Display.oneLine_of_forall (p := Text.isDigit) (fun c hc => ?_) (by decide)
  rw [natText, String.toList_ofList] at hc
  exact Json.Reader.isDigit_of_mem_toDigits hc

theorem oneLine_zeros (n : Nat) : OneLine (zeros n) := by
  rw [OneLine, zeros, Text.toList_pushn]
  exact fun h => by cases List.eq_of_mem_replicate h

theorem oneLine_exponentText (e : Int) : OneLine (exponentText e) := by
  unfold exponentText
  split
  · exact oneLine_append (by decide) (oneLine_natText _)
  · exact oneLine_append (by decide) (oneLine_natText _)

theorem oneLine_layout (d : Scaled) : OneLine (d.layout .document) := by
  have hdigits := oneLine_natText d.digits
  have htake : ∀ n, OneLine (String.ofList ((natText d.digits).toList.take n)) := by
    intro n
    rw [OneLine, String.toList_ofList]
    exact fun h => hdigits (List.mem_of_mem_take h)
  have hdrop : ∀ n, OneLine (String.ofList ((natText d.digits).toList.drop n)) := by
    intro n
    rw [OneLine, String.toList_ofList]
    exact fun h => hdigits (List.mem_of_mem_drop h)
  unfold Scaled.layout
  dsimp only
  split
  · split
    · exact oneLine_append (oneLine_append hdigits (oneLine_zeros _)) (by decide)
    split
    · exact oneLine_append (oneLine_append (htake _) (by decide)) (hdrop _)
    · exact oneLine_append (oneLine_append (by decide) (oneLine_zeros _)) hdigits
  · refine oneLine_append (oneLine_append (htake 1) ?_) (oneLine_exponentText _)
    split
    · decide
    · exact oneLine_append (by decide) (hdrop 1)

theorem oneLine_documentText (x : Float) : OneLine (documentText x) := by
  unfold documentText finiteText
  dsimp only
  split
  · refine oneLine_append ?_ (by decide)
    split <;> decide
  · have hbody : ∀ body : String, OneLine body → ∀ negative : Bool,
        OneLine (if negative = true then "-" ++ body else body) := by
      intro body hbody negative
      cases negative with
      | true => exact oneLine_append (by decide) hbody
      | false => exact hbody
    apply hbody
    split
    · exact oneLine_append (oneLine_natText _) (by decide)
    · exact oneLine_layout _

end Decimal

namespace Json

theorem oneLine_number (n : Number) : OneLine n.text := by
  cases n with
  | int i =>
    unfold Number.text
    dsimp only
    split
    · exact oneLine_append (by decide) (Decimal.oneLine_natText _)
    · exact Decimal.oneLine_natText _
  | double x => exact Decimal.oneLine_documentText x

/-- A line feed in a text is escaped. -/
theorem not_mem_escapeChar (c : Char) : '\n' ∉ escapeChar c := by
  have hdigit : ∀ n < 16, '\n' ≠ hexDigit n := by decide
  have hhigh : c.toNat < 32 → '\n' ≠ hexDigit (c.toNat / 16) := fun h => hdigit _ (by omega)
  have hlow : '\n' ≠ hexDigit (c.toNat % 16) := hdigit _ (Nat.mod_lt _ (by decide))
  unfold escapeChar
  split_ifs with hquote hslash hline <;> simp_all [eq_comm]

theorem oneLine_quote (s : String) : OneLine (quote s) := by
  rw [OneLine, toList_quote]
  have hbody : '\n' ∉ s.toList.flatMap escapeChar := by
    intro h
    obtain ⟨c, -, hc⟩ := List.mem_flatMap.mp h
    exact not_mem_escapeChar c hc
  simp [hbody]

end Json

/-! ## A margin is more depth -/

namespace Terminal

open Json (prettyAt prettyItems prettyMembers newline)

variable {s t : String} {level : Nat}

theorem indented_append (s t : String) : indented (s ++ t) = indented s ++ indented t := by
  rw [indented, indented, indented, ← String.ofList_append, String.toList_append,
    List.flatMap_append]

theorem indented_of_oneLine (h : OneLine t) : indented t = t := by
  have hsame : t.toList.flatMap (fun c => if c = '\n' then c :: margin.toList else [c]) =
      t.toList.flatMap fun c => [c] := by
    refine List.flatMap_congr fun c hc => ?_
    rw [if_neg]
    rintro rfl
    exact h hc
  rw [indented, hsame, List.flatMap_singleton', String.ofList_toList]

theorem toList_margin : margin.toList = List.replicate 6 ' ' := Text.toList_pushn ' ' 6

theorem oneLine_margin : OneLine margin := by
  rw [OneLine, toList_margin]
  decide

/-- The margin is as wide as three levels. -/
theorem indented_newline (level : Nat) : indented (newline level) = newline (level + 3) := by
  have hblanks : OneLine ("".pushn ' ' (2 * level)) := by
    rw [OneLine, Text.toList_pushn]
    exact fun h => by cases List.eq_of_mem_replicate h
  have hbreak : indented "\n" = "\n" ++ margin := rfl
  rw [newline, indented_append, indented_of_oneLine hblanks, hbreak, newline, ← String.toList_inj]
  simp only [String.toList_append, Text.toList_pushn, toList_margin, List.append_assoc,
    List.replicate_append_replicate]
  rw [show 6 + 2 * level = 2 * (level + 3) by omega]

theorem indented_prettyItems {items : List Json}
    (h : ∀ v ∈ items, indented (prettyAt level v) = prettyAt (level + 3) v) :
    indented (prettyItems level items) = prettyItems (level + 3) items := by
  induction items with
  | nil => rfl
  | cons item items ih =>
    obtain ⟨hitem, hitems⟩ := List.forall_mem_cons.mp h
    have hcomma : indented "," = "," := indented_of_oneLine (by decide)
    simp only [prettyItems, indented_append, indented_newline, hcomma, hitem, ih hitems]

theorem indented_prettyMembers {members : List (String × Json)}
    (h : ∀ m ∈ members, indented (prettyAt level m.2) = prettyAt (level + 3) m.2) :
    indented (prettyMembers level members) = prettyMembers (level + 3) members := by
  induction members with
  | nil => rfl
  | cons m members ih =>
    obtain ⟨hm, hmembers⟩ := List.forall_mem_cons.mp h
    have hcomma : indented "," = "," := indented_of_oneLine (by decide)
    have hcolon : indented ": " = ": " := indented_of_oneLine (by decide)
    simp only [prettyMembers, indented_append, indented_newline, hcomma, hcolon,
      indented_of_oneLine (Json.oneLine_quote m.1), hm, ih hmembers]

/-- Indented, a value stands as it does three levels deeper: no line of its text
begins inside of a string or a key. -/
theorem indented_prettyAt (v : Json) (level : Nat) :
    indented (prettyAt level v) = prettyAt (level + 3) v := by
  induction v using Json.induct generalizing level with
  | null => exact indented_of_oneLine (t := "null") (by decide)
  | bool b =>
    cases b with
    | true => exact indented_of_oneLine (t := "true") (by decide)
    | false => exact indented_of_oneLine (t := "false") (by decide)
  | number n => exact indented_of_oneLine (Json.oneLine_number n)
  | string s => exact indented_of_oneLine (Json.oneLine_quote s)
  | array items ih =>
    cases items with
    | nil => exact indented_of_oneLine (t := "[]") (by decide)
    | cons item items =>
      obtain ⟨hitem, hitems⟩ := List.forall_mem_cons.mp ih
      have hopen : indented "[" = "[" := indented_of_oneLine (by decide)
      have hclose : indented "]" = "]" := indented_of_oneLine (by decide)
      have hmore := indented_prettyItems fun v hv => hitems v hv (level + 1)
      simp only [prettyAt, indented_append, indented_newline, hopen, hclose, hitem, hmore,
        Nat.add_right_comm level 1 3]
  | object members ih =>
    cases members with
    | nil => exact indented_of_oneLine (t := "\x7b\x7d") (by decide)
    | cons m members =>
      obtain ⟨hm, hmembers⟩ := List.forall_mem_cons.mp ih
      have hopen : indented "\x7b" = "\x7b" := indented_of_oneLine (by decide)
      have hclose : indented "\x7d" = "\x7d" := indented_of_oneLine (by decide)
      have hcolon : indented ": " = ": " := indented_of_oneLine (by decide)
      have hmore := indented_prettyMembers fun n hn => hmembers n hn (level + 1)
      simp only [prettyAt, indented_append, indented_newline, hopen, hclose, hcolon,
        indented_of_oneLine (Json.oneLine_quote m.1), hm, hmore, Nat.add_right_comm level 1 3]

/-! ## Lines behind the margin -/

theorem exists_splitLines_indented (cs : List Char) :
    ∃ first rest, ∀ line, Display.splitLines line cs = (line.reverse ++ first) :: rest ∧
      Display.splitLines line (cs.flatMap fun c => if c = '\n' then c :: margin.toList else [c]) =
        (line.reverse ++ first) :: rest.map (margin.toList ++ ·) := by
  induction cs with
  | nil => exact ⟨[], [], fun line => by simp [Display.splitLines]⟩
  | cons c cs ih =>
    obtain ⟨first, rest, h⟩ := ih
    by_cases hc : c = '\n'
    · subst hc
      refine ⟨[], first :: rest, fun line => ⟨?_, ?_⟩⟩
      · rw [Display.splitLines, if_pos rfl, (h []).1, List.append_nil]
        rfl
      · rw [List.flatMap_cons, if_pos rfl, List.cons_append, Display.splitLines, if_pos rfl,
          Display.splitLines_append oneLine_margin, (h _).2, List.append_nil, List.append_nil,
          List.reverse_reverse]
        rfl
    · refine ⟨c :: first, rest, fun line => ?_⟩
      have hline : (c :: line).reverse ++ first = line.reverse ++ c :: first := by simp
      rw [List.flatMap_cons, if_neg hc, List.singleton_append, Display.splitLines, if_neg hc,
        Display.splitLines, if_neg hc, ← hline]
      exact h _

/-- Indenting leaves the first line as it is, whatever stands before it there, and
puts the margin before the others. -/
theorem exists_lines_indented (t : String) :
    ∃ first rest, lines t = first :: rest ∧
      ∀ s, OneLine s → lines (s ++ indented t) = (s ++ first) :: rest.map (margin ++ ·) := by
  obtain ⟨first, rest, h⟩ := exists_splitLines_indented t.toList
  refine ⟨String.ofList first, rest.map String.ofList, ?_, fun s hs => ?_⟩
  · rw [lines, (h []).1]
    rfl
  · rw [lines, String.toList_append, Display.splitLines_append hs, indented, String.toList_ofList,
      (h _).2, List.map_cons, List.map_map, List.map_map]
    refine congrArg₂ List.cons ?_ ?_
    · simp
    · refine List.map_congr_left fun piece _ => ?_
      rw [Function.comp_apply, Function.comp_apply, String.ofList_append, String.ofList_toList]

/-- The text without the margin of the lines after the first. -/
def outdented (t : String) : String :=
  match lines t with
  | [] => ""
  | first :: rest => "\n".intercalate (first :: rest.map fun l => String.ofList (l.toList.drop width))

theorem outdented_indented (t : String) : outdented (indented t) = t := by
  obtain ⟨first, rest, hlines, hindented⟩ := exists_lines_indented t
  have hdrop : ∀ l ∈ rest, String.ofList ((margin ++ l).toList.drop width) = l := by
    intro l _
    have hlength : margin.toList.length = width := by rw [toList_margin]; rfl
    rw [String.toList_append, List.drop_append_of_le_length hlength.ge, ← hlength, List.drop_length,
      List.nil_append, String.ofList_toList]
  have hself := hindented "" (by decide)
  rw [String.empty_append, String.empty_append] at hself
  rw [outdented, hself]
  dsimp only
  rw [List.map_map]
  have hrest : rest.map ((fun l => String.ofList (l.toList.drop width)) ∘ (margin ++ ·)) = rest :=
    (List.map_congr_left hdrop).trans (List.map_id _)
  rw [hrest, ← hlines, Display.intercalate_lines]

/-! ## The lines of an entry -/

/-- A segment as it is shown but for the margin. -/
def bare (k : Log.Kind) : Display.Segment → String
  | .tree v => v.pretty
  | s => segment k s

theorem oneLine_paint (y : Style) (h : OneLine t) : OneLine (paint y t) := by
  have hstart : OneLine y.start := by cases y <;> decide
  exact oneLine_append (oneLine_append hstart h) (by decide)

theorem oneLine_gutter (k : Log.Kind) : OneLine (gutter k) := by
  cases k <;> decide

/-- The gutter is the kind's name in the kind's colour, filled up with blanks
before it. -/
theorem gutter_eq (k : Log.Kind) : ∃ blanks : Nat, blanks + k.name.length + 1 = width ∧
    gutter k = (style k).start ++ "".pushn ' ' blanks ++ k.name ++ reset ++ " " := by
  cases k with
  | log => exact ⟨2, by decide, by decide⟩
  | warn => exact ⟨1, by decide, by decide⟩
  | error => exact ⟨0, by decide, by decide⟩

/-- It is never empty: it begins with the sequence that turns the colour on. -/
theorem exists_gutter (k : Log.Kind) : ∃ rest, (gutter k).toList = '\x1b' :: rest := by
  cases k with
  | log => exact ⟨_, rfl⟩
  | warn => exact ⟨_, rfl⟩
  | error => exact ⟨_, rfl⟩

theorem segment_classify (k : Log.Kind) {l : String} (hl : OneLine l) :
    segment k (Display.classify l) = indented (bare k (Display.classify l)) := by
  have hplain : ∀ s : Display.Segment, (∀ v, s ≠ .tree v) → OneLine (segment k s) →
      segment k s = indented (bare k s) := by
    intro s hs hline
    cases s with
    | tree v => exact absurd rfl (hs v)
    | _ => exact (indented_of_oneLine hline).symm
  unfold Display.classify
  split
  · rfl
  split
  · exact hplain _ (fun v hv => nomatch hv) (oneLine_paint _ (by decide))
  split
  · exact hplain _ (fun v hv => nomatch hv) (oneLine_paint _ (by decide))
  split
  · exact hplain _ (fun v hv => nomatch hv) (oneLine_paint _ hl)
  split
  · exact hplain _ (fun v hv => nomatch hv) (oneLine_paint _ hl)
  · refine hplain _ (fun v hv => nomatch hv) ?_
    cases k with
    | log => exact hl
    | warn => exact oneLine_paint _ hl
    | error => exact oneLine_paint _ hl

theorem segment_of_mem {e : Log.Entry} {s : Display.Segment} (h : s ∈ e.segments) :
    segment e.kind s = indented (bare e.kind s) := by
  obtain ⟨l, hl, rfl⟩ := List.mem_map.mp h
  exact segment_classify e.kind (Display.oneLine_of_mem_lines hl)

/-- What is written line by line has these lines, and nothing behind them. -/
theorem lines_join (pieces : List String) :
    lines (String.join (pieces.map line)) = pieces.flatMap lines ++ [""] := by
  induction pieces with
  | nil => rfl
  | cons p pieces ih =>
    rw [List.map_cons, String.join_cons, line, Display.lines_break, ih, List.flatMap_cons,
      List.append_assoc]

/-- Pieces that are indented, beside their gutter, are their lines beside it. -/
theorem lines_besideGutter (k : Log.Kind) (texts : List String) :
    (besideGutter k (texts.map indented)).flatMap lines = besideGutter k (texts.flatMap lines) := by
  have hmargin : ∀ t, lines (margin ++ indented t) = (lines t).map (margin ++ ·) := by
    intro t
    obtain ⟨first, rest, hlines, hindented⟩ := exists_lines_indented t
    rw [hindented _ oneLine_margin, hlines, List.map_cons]
  cases texts with
  | nil => rfl
  | cons t texts =>
    obtain ⟨first, rest, hlines, hindented⟩ := exists_lines_indented t
    calc (besideGutter k ((t :: texts).map indented)).flatMap lines
        = lines (gutter k ++ indented t) ++ texts.flatMap fun t => lines (margin ++ indented t) := by
          rw [List.map_cons, besideGutter, List.flatMap_cons, List.map_map, List.flatMap_map]
          rfl
      _ = (gutter k ++ first) :: rest.map (margin ++ ·) ++
            texts.flatMap fun t => (lines t).map (margin ++ ·) := by
          rw [hindented _ (oneLine_gutter k), List.flatMap_congr fun t _ => hmargin t]
      _ = besideGutter k (first :: (rest ++ texts.flatMap lines)) := by
          rw [besideGutter, List.map_append, List.map_flatMap]
          rfl
      _ = besideGutter k ((t :: texts).flatMap lines) := by
          rw [List.flatMap_cons, hlines]
          rfl

theorem lines_entry (e : Log.Entry) :
    lines (entry e) =
      besideGutter e.kind (e.segments.flatMap fun s => lines (bare e.kind s)) ++ [""] := by
  have hpieces : e.segments.map (segment e.kind) = (e.segments.map (bare e.kind)).map indented := by
    rw [List.map_map]
    exact List.map_congr_left fun s hs => segment_of_mem hs
  rw [entry, lines_join, hpieces, lines_besideGutter, List.flatMap_map]

/-- No line of an entry begins with a text from the script: it begins in the
gutter or in the margin, and both are there on every line but the empty one behind
the last end of line. -/
theorem begins_of_mem_lines_entry {e : Log.Entry} {l : String} (h : l ∈ lines (entry e)) :
    (∃ text, l = gutter e.kind ++ text ∧ l.toList.head? = some '\x1b') ∨
      (∃ text, l = margin ++ text ∧ l.toList.head? = some ' ') ∨ l = "" := by
  rw [lines_entry, List.mem_append, List.mem_singleton] at h
  rcases h with h | rfl
  · cases htexts : e.segments.flatMap fun s => lines (bare e.kind s) with
    | nil =>
      rw [htexts] at h
      cases h
    | cons first rest =>
      rw [htexts, besideGutter] at h
      rcases List.mem_cons.mp h with rfl | h
      · obtain ⟨rest, hgutter⟩ := exists_gutter e.kind
        exact .inl ⟨first, rfl, by rw [String.toList_append, hgutter]; rfl⟩
      · obtain ⟨text, -, rfl⟩ := List.mem_map.mp h
        exact .inr (.inl ⟨text, rfl, by rw [String.toList_append, toList_margin]; rfl⟩)
  · exact .inr (.inr rfl)

theorem segments_ne_nil (e : Log.Entry) : e.segments ≠ [] := by
  obtain ⟨first, rest, hlines, -⟩ := Display.exists_lines e.content
  rw [Log.Entry.segments, Display.render, hlines]
  exact List.cons_ne_nil _ _

/-- The first line of an entry begins with the gutter of its kind, and every other
one with the margin; behind them are the lines of its segments, and no others.  A
tree loses its margin and is the text of its value again, as which it is read with
the margin too: indented, it is the value three levels deeper. -/
theorem entry_within_gutter (e : Log.Entry) :
    (∃ first rest, lines (entry e) = (gutter e.kind ++ first) :: rest.map (margin ++ ·) ++ [""] ∧
      first :: rest = e.segments.flatMap fun s => lines (bare e.kind s)) ∧
    ∀ v, .tree v ∈ e.segments →
      outdented (segment e.kind (.tree v)) = v.pretty ∧
      segment e.kind (.tree v) = prettyAt 3 v ∧
      ∃ w, Json.Like v w ∧ Json.parse none (segment e.kind (.tree v)) = .ok w := by
  constructor
  · obtain ⟨s, segments, hsegments⟩ := List.exists_cons_of_ne_nil (segments_ne_nil e)
    obtain ⟨first, rest, hlines, -⟩ := Display.exists_lines (bare e.kind s)
    refine ⟨first, rest ++ segments.flatMap fun s => lines (bare e.kind s), ?_, ?_⟩
    · rw [lines_entry, hsegments, List.flatMap_cons, hlines]
      rfl
    · rw [hsegments, List.flatMap_cons, hlines]
      rfl
  · intro v hv
    obtain ⟨l, -, hl⟩ := List.mem_map.mp hv
    have hsound : v.Sound := by
      have := Display.Segment.sound_value l
      rwa [hl] at this
    have hdeeper : segment e.kind (.tree v) = prettyAt 3 v := indented_prettyAt v 0
    obtain ⟨w, hlike, hparse⟩ := (Json.written_prettyAt v 3).exists_parse hsound
    have hread := hparse [] [] Json.Blanks.nil Json.Blanks.nil
    rw [List.append_nil, List.nil_append, String.ofList_toList] at hread
    exact ⟨outdented_indented v.pretty, hdeeper, w, hlike, by rw [hdeeper, hread]⟩

/-- A value with texts that look like lines of their own. -/
def lookalike : Json := .object [("\n", .array [.string "\nerror", .null])]

theorem entry_within_gutter_lookalike :
    ∃ e : Log.Entry, e.content = "" ++ lookalike.compact ++ " " ∧ .tree lookalike ∈ e.segments ∧
      outdented (segment e.kind (.tree lookalike)) = lookalike.pretty := by
  have hplain : lookalike.Plain := by
    refine .object (by decide) (List.forall_mem_singleton.mpr (.array ?_))
    exact List.forall_mem_cons.mpr ⟨.string _, List.forall_mem_singleton.mpr .null⟩
  have hempty : ∀ c ∈ "".toList, Json.Reader.isBlank c = true := List.all_eq_true.mp (by decide)
  have hspace : ∀ c ∈ " ".toList, Json.Reader.isBlank c = true := List.all_eq_true.mp (by decide)
  have htree : Display.treeOf? ("" ++ lookalike.compact ++ " ") = some lookalike :=
    Display.treeOf?_of_ok trivial (hplain.parse_blanks hempty hspace)
  have hmem : .tree lookalike ∈ Log.Entry.segments ⟨.warn, "" ++ lookalike.compact ++ " ", 0⟩ := by
    refine List.mem_map.mpr ⟨_, ?_, Display.classify_of_some htree⟩
    rw [Display.lines_of_oneLine (by decide)]
    exact List.mem_singleton.mpr rfl
  exact ⟨_, rfl, hmem, ((entry_within_gutter _).2 _ hmem).1⟩

end Terminal

end Playpen
