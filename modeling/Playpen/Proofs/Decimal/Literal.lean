import Playpen.Decimal.Numeral
import Playpen.Proofs.Decimal.Cursor

/-!
# The literals of numbers in texts

What a script reads as a number is laid down by a grammar: literals with an
optional sign, literals with a mark for their radix, and blanks around them.
The grammar is written down here as it stands, and the program that converts
texts is shown to succeed on exactly what it derives (`isSome_ofText?`).

Both that program and the one that decides what is shown as a number take the
longest rows of digits; `decimalLiteral_iff` says once what the grammar comes
to when it is read in this way.  The second one never sees characters: it moves a
cursor over the bytes of a text, and never looks outside them
(`scanDecimal_decides`).
-/

namespace Playpen.Decimal

open Playpen.Text (isDigit isHexDigit Stops trimBy)

/-! ## The grammar -/

/-- A row of at least one digit. -/
def Digits (digit : Char → Bool) (cs : List Char) : Prop := cs ≠ [] ∧ ∀ c ∈ cs, digit c = true

/-- An exponent part, or none. -/
inductive Exponent : List Char → Prop
  | absent : Exponent []
  | plain {e : Char} {ds : List Char} (he : e = 'e' ∨ e = 'E') (hds : Digits isDigit ds) :
      Exponent (e :: ds)
  | signed {e s : Char} {ds : List Char} (he : e = 'e' ∨ e = 'E') (hs : s = '+' ∨ s = '-')
      (hds : Digits isDigit ds) : Exponent (e :: s :: ds)

/-- A decimal literal without a sign: digits, digits with a point behind or
among them, or digits behind a point. -/
inductive DecimalLiteral : List Char → Prop
  | whole {ds tail : List Char} (hds : Digits isDigit ds) (htail : Exponent tail) :
      DecimalLiteral (ds ++ tail)
  | pointed {ds places tail : List Char} (hds : Digits isDigit ds)
      (hplaces : ∀ c ∈ places, isDigit c = true) (htail : Exponent tail) :
      DecimalLiteral (ds ++ '.' :: (places ++ tail))
  | fraction {places tail : List Char} (hplaces : Digits isDigit places) (htail : Exponent tail) :
      DecimalLiteral ('.' :: (places ++ tail))

/-- A literal that may have a sign. -/
inductive UnsignedLiteral : List Char → Prop
  | infinity : UnsignedLiteral ['I', 'n', 'f', 'i', 'n', 'i', 't', 'y']
  | decimal {cs : List Char} (h : DecimalLiteral cs) : UnsignedLiteral cs

/-- The digits behind a mark for a radix. -/
def digitsOfMark (mark : Char) : Option (Char → Bool) :=
  if mark = 'x' ∨ mark = 'X' then some isHexDigit
  else if mark = 'o' ∨ mark = 'O' then some fun d => '0' ≤ d ∧ d ≤ '7'
  else if mark = 'b' ∨ mark = 'B' then some fun d => d = '0' ∨ d = '1'
  else none

/-- A literal of a number. -/
inductive NumberLiteral : List Char → Prop
  | plain {cs : List Char} (h : UnsignedLiteral cs) : NumberLiteral cs
  | signed {s : Char} {cs : List Char} (hs : s = '+' ∨ s = '-') (h : UnsignedLiteral cs) :
      NumberLiteral (s :: cs)
  | radix {mark : Char} {digit : Char → Bool} {ds : List Char}
      (hmark : digitsOfMark mark = some digit) (hds : Digits digit ds) :
      NumberLiteral ('0' :: mark :: ds)

/-- The blanks and line ends of scripts. -/
def scriptBlanks : List Char := [
  '\t', '\n', '\u000B', '\u000C', '\r', ' ', '\u00A0', '\u1680', '\u2000', '\u2001', '\u2002',
  '\u2003', '\u2004', '\u2005', '\u2006', '\u2007', '\u2008', '\u2009', '\u200A', '\u2028',
  '\u2029', '\u202F', '\u205F', '\u3000', '\uFEFF']

/-- A literal with characters of a class around it. -/
def Surrounded (blank : Char → Prop) (cs : List Char) : Prop :=
  ∃ before core after, cs = before ++ core ++ after ∧ NumberLiteral core ∧
    (∀ c ∈ before, blank c) ∧ ∀ c ∈ after, blank c

/-- What a script converts to a number: blanks alone, or a literal among
blanks. -/
def Converts (cs : List Char) : Prop :=
  (∀ c ∈ cs, c ∈ scriptBlanks) ∨ Surrounded (· ∈ scriptBlanks) cs

/-! ## Reading with the longest rows of digits -/

variable {cs : List Char}

theorem digits_iff {digit : Char → Bool} :
    (!cs.isEmpty && cs.all digit) = true ↔ Digits digit cs := by
  simp [Digits]

/-- Behind the mark of an exponent part are digits, and at most a sign before
them. -/
theorem exponent_cons_iff {e : Char} : Exponent (e :: cs) ↔
    (e = 'e' ∨ e = 'E') ∧ Digits isDigit (Display.unsigned cs) := by
  constructor
  · intro h
    cases h with
    | plain he hds =>
      refine ⟨he, ?_⟩
      unfold Display.unsigned
      split
      · exact absurd (hds.2 '+' List.mem_cons_self) (by decide)
      · exact absurd (hds.2 '-' List.mem_cons_self) (by decide)
      · exact hds
    | signed he hs hds => rcases hs with rfl | rfl <;> exact ⟨he, hds⟩
  · rintro ⟨he, hds⟩
    unfold Display.unsigned at hds
    split at hds
    · exact .signed he (Or.inl rfl) hds
    · exact .signed he (Or.inr rfl) hds
    · exact .plain he hds

theorem isSome_exponentOf : (exponentOf cs).isSome = true ↔ Exponent cs := by
  cases cs with
  | nil => exact iff_of_true rfl .absent
  | cons e rest =>
    have hdigits : ∀ (negative : Bool) (ds : List Char),
        (if (!ds.isEmpty && ds.all isDigit) = true then
          (let n : Int := if (ds.dropWhile (· = '0')).length > 9 then 999999999
            else digitsValue 10 ds
          some (if negative then -n else n)) else none).isSome = true ↔ Digits isDigit ds := by
      intro negative ds
      rw [← digits_iff]
      split
      · rename_i h
        exact iff_of_true rfl h
      · rename_i h
        exact iff_of_false (fun hsome => by cases hsome) h
    rw [exponent_cons_iff]
    unfold exponentOf Display.unsigned
    dsimp only
    split
    · rename_i he
      rw [and_iff_right he]
      -- the two programs look at the sign alike
      split
      · exact hdigits false _
      · exact hdigits true _
      · rename_i hplus hminus
        simpa [hplus, hminus] using hdigits false rest
    · rename_i he
      exact iff_of_false (fun hsome => by cases hsome) fun h => he h.1

theorem Exponent.stops (h : Exponent cs) : Stops isDigit cs := by
  cases h with
  | absent => exact Text.stops_nil isDigit
  | plain he _ => rcases he with rfl | rfl <;> exact Text.stops_cons.mpr (by decide)
  | signed he _ _ => rcases he with rfl | rfl <;> exact Text.stops_cons.mpr (by decide)

theorem Exponent.head?_ne_point (h : Exponent cs) : cs.head? ≠ some '.' := by
  cases h with
  | absent => exact fun h => by cases h
  | plain he _ => rcases he with rfl | rfl <;> exact fun h => by cases h
  | signed he _ _ => rcases he with rfl | rfl <;> exact fun h => by cases h

/-- The longest row of digits first, then a point with the longest row behind
it, and then the exponent. -/
theorem decimalLiteral_iff : DecimalLiteral cs ↔
    match cs.dropWhile isDigit with
    | '.' :: rest =>
      (cs.takeWhile isDigit ≠ [] ∨ rest.takeWhile isDigit ≠ []) ∧ Exponent (rest.dropWhile isDigit)
    | rest => cs.takeWhile isDigit ≠ [] ∧ Exponent rest := by
  have hpoint : ∀ rest, Stops isDigit ('.' :: rest) := fun rest => Text.stops_cons.mpr (by decide)
  constructor
  · intro h
    cases h with
    | whole hds htail =>
      rename_i ds tail
      rw [Text.dropWhile_append_of_stops hds.2 htail.stops,
        Text.takeWhile_append_of_stops hds.2 htail.stops]
      split
      · exact absurd rfl htail.head?_ne_point
      · exact ⟨hds.1, htail⟩
    | pointed hds hplaces htail =>
      rename_i ds places tail
      rw [Text.dropWhile_append_of_stops hds.2 (hpoint _),
        Text.takeWhile_append_of_stops hds.2 (hpoint _)]
      show (ds ≠ [] ∨ _) ∧ Exponent ((places ++ tail).dropWhile isDigit)
      rw [Text.dropWhile_append_of_stops hplaces htail.stops]
      exact ⟨Or.inl hds.1, htail⟩
    | fraction hplaces htail =>
      rename_i places tail
      rw [List.dropWhile_cons, if_neg (by decide)]
      show (_ ∨ (places ++ tail).takeWhile isDigit ≠ []) ∧
        Exponent ((places ++ tail).dropWhile isDigit)
      rw [Text.dropWhile_append_of_stops hplaces.2 htail.stops,
        Text.takeWhile_append_of_stops hplaces.2 htail.stops]
      exact ⟨Or.inr hplaces.1, htail⟩
  · intro h
    have hdigits : ∀ {cs : List Char}, ∀ c ∈ cs.takeWhile isDigit, isDigit c = true :=
      fun c hc => List.mem_takeWhile_imp hc
    have hcs : cs.takeWhile isDigit ++ cs.dropWhile isDigit = cs :=
      List.takeWhile_append_dropWhile
    split at h
    · rename_i rest hrest
      obtain ⟨hany, htail⟩ := h
      rw [← hcs, hrest, ← List.takeWhile_append_dropWhile (p := isDigit) (l := rest)]
      by_cases hwhole : cs.takeWhile isDigit = []
      · rw [hwhole]
        exact .fraction ⟨hany.resolve_left (absurd hwhole), hdigits⟩ htail
      · exact .pointed ⟨hwhole, hdigits⟩ hdigits htail
    · rw [← hcs]
      exact .whole ⟨h.1, hdigits⟩ h.2

theorem isSome_decimalOf : (decimalOf cs).isSome = true ↔ DecimalLiteral cs := by
  have hvalue : ∀ (missing : Bool) (tail : List Char) (f : Int → Float),
      (if missing = true then none else (exponentOf tail).map f).isSome = true ↔
        missing = false ∧ Exponent tail := by
    intro missing tail f
    cases missing <;> simp [isSome_exponentOf]
  rw [decimalLiteral_iff]
  unfold decimalOf
  generalize cs.dropWhile isDigit = rest
  generalize cs.takeWhile isDigit = whole
  dsimp only
  split
  · rename_i rest
    rw [hvalue]
    refine and_congr_left fun _ => ?_
    simp [imp_iff_not_or]
  · rw [hvalue]
    simp

/-! ## Reading with a cursor -/

section

open Display (Ahead looksAt skipDigits skipMantissa skipExponent scanDecimal)

variable {bytes : ByteArray} {i : Nat}

/-- The cursor comes to the end behind a row of digits. -/
theorem skipDigits_iff (h : Ahead bytes i cs) :
    (∃ j, skipDigits bytes i = some j ∧ j ≠ i ∧ j = bytes.size) ↔ Digits isDigit cs := by
  obtain ⟨hskip, hahead⟩ := h.skipDigits_eq
  have hend := hahead.eq_size_iff
  rw [List.dropWhile_eq_nil_iff] at hend
  constructor
  · rintro ⟨j, hj, hne, hsize⟩
    rw [hskip, Option.some.injEq] at hj
    subst hj
    refine ⟨?_, hend.mp hsize⟩
    rintro rfl
    exact hne rfl
  · rintro ⟨hne, hall⟩
    refine ⟨_, hskip, ?_, hend.mpr hall⟩
    have hlength := List.length_pos_iff.mpr hne
    rw [List.takeWhile_eq_self_iff.mpr hall]
    omega

/-- The cursor comes to the end behind an exponent part, or stands there if there
is none. -/
theorem skipExponent_iff (h : Ahead bytes i cs) :
    skipExponent bytes i = some (some bytes.size) ↔ Exponent cs := by
  have hmark := h.looksAt_eq (Display.ascii_of_eq_or (a := 'e') (b := 'E') (by decide) (by decide))
  simp only [skipExponent, hmark, Option.bind_eq_bind, Option.bind_some]
  cases cs with
  | nil =>
    refine iff_of_true ?_ .absent
    rw [h.eq_size_iff.mpr rfl]
    rfl
  | cons e rest =>
    rw [exponent_cons_iff, List.head?_cons, Option.any_some]
    by_cases he : e = 'e' ∨ e = 'E'
    · have htail : Ahead bytes (i + 1) rest := h.tail (by rcases he with rfl | rfl <;> decide)
      obtain ⟨first, hfirst, hahead⟩ := htail.skipSign_eq
      obtain ⟨j, hj⟩ := Display.exists_skipDigits bytes first
      rw [if_pos (decide_eq_true he), hfirst, Option.bind_some, hj, Option.bind_some,
        and_iff_right he, ← skipDigits_iff hahead, hj]
      by_cases hnone : j = first
      · rw [if_pos hnone]
        constructor
        · intro hend
          cases hend
        · rintro ⟨k, hk, hne, -⟩
          rw [← hnone, ← Option.some.inj hk] at hne
          exact absurd rfl hne
      · rw [if_neg hnone]
        constructor
        · intro hend
          exact ⟨j, rfl, hnone, Option.some.inj (Option.some.inj hend)⟩
        · rintro ⟨k, hk, -, rfl⟩
          rw [Option.some.inj hk]
          rfl
    · rw [if_neg (by simpa using he)]
      refine iff_of_false (fun hend => ?_) fun h => he h.1
      have hi : i = bytes.size := Option.some.inj (Option.some.inj hend)
      exact List.cons_ne_nil e rest (h.eq_size_iff.mp hi)

theorem scanDecimal_iff {digits : Nat} (h : skipMantissa bytes = some (digits, i)) :
    scanDecimal bytes = some true ↔
      digits ≠ 0 ∧ skipExponent bytes i = some (some bytes.size) := by
  obtain ⟨r, hr⟩ := Display.exists_skipExponent bytes i
  simp only [scanDecimal, h, hr, Option.bind_eq_bind, Option.bind_some]
  split
  · simp_all
  · cases r <;> simp_all

/-- The cursor comes to the end behind a decimal literal, and only there. -/
theorem scanDecimal_ahead (h : Ahead bytes 0 cs) :
    scanDecimal bytes = some true ↔ DecimalLiteral cs := by
  obtain ⟨hwhole, hahead⟩ := h.skipDigits_eq
  rw [Nat.zero_add] at hwhole hahead
  have hpoint := hahead.looksAt_eq (Display.ascii_of_eq (a := '.') (by decide))
  rw [decimalLiteral_iff]
  generalize cs.takeWhile isDigit = whole at *
  generalize cs.dropWhile isDigit = rest at *
  split
  · rename_i rest
    obtain ⟨hplaces, hbehind⟩ := (hahead.tail (by decide)).skipDigits_eq
    generalize rest.takeWhile isDigit = places at *
    have hmantissa : skipMantissa bytes =
        some (whole.length + places.length, whole.length + 1 + places.length) := by
      rw [List.head?_cons, Option.any_some] at hpoint
      simp only [skipMantissa, hwhole, hpoint, hplaces, Option.bind_eq_bind, Option.bind_some]
      rw [if_pos (by decide), Nat.add_sub_cancel_left]
      rfl
    rw [scanDecimal_iff hmantissa, skipExponent_iff hbehind]
    refine and_congr_left fun _ => ?_
    rw [Ne, Nat.add_eq_zero_iff, List.length_eq_zero_iff, List.length_eq_zero_iff, not_and_or]
  · rename_i hnone
    have hmantissa : skipMantissa bytes = some (whole.length, whole.length) := by
      simp only [skipMantissa, hwhole, hpoint, Option.bind_eq_bind, Option.bind_some]
      rw [if_neg]
      · rfl
      · rw [Option.any_eq_true]
        rintro ⟨c, hc, heq⟩
        obtain ⟨behind, rfl⟩ := List.head?_eq_some_iff.mp hc
        exact hnone behind (by rw [of_decide_eq_true heq])
    rw [scanDecimal_iff hmantissa, skipExponent_iff hahead]
    refine and_congr_left fun _ => ?_
    rw [Ne, List.length_eq_zero_iff]

theorem isDecimalLiteral_iff : Display.isDecimalLiteral cs = true ↔ DecimalLiteral cs := by
  rw [Display.isDecimalLiteral, decide_eq_true_iff]
  exact scanDecimal_ahead (Display.ahead_ofList cs)

/-- Of every text the scan says whether all of it is a decimal literal, and of no
bytes, whether they are a text or not, does it look at one that is not there. -/
theorem scanDecimal_decides (text : String) :
    (∃ b, scanDecimal text.toUTF8 = some b ∧ (b = true ↔ DecimalLiteral text.toList)) ∧
    ∀ bytes, scanDecimal bytes ≠ none := by
  constructor
  · obtain ⟨b, hb⟩ := Display.exists_scanDecimal text.toUTF8
    have hahead := Display.ahead_ofList text.toList
    rw [String.ofList_toList] at hahead
    have hiff := scanDecimal_ahead hahead
    rw [hb, Option.some.injEq] at hiff
    exact ⟨b, hb, hiff⟩
  · intro bytes hnone
    obtain ⟨b, hb⟩ := Display.exists_scanDecimal bytes
    rw [hnone] at hb
    cases hb

end

/-! ## Signs and marks -/

theorem UnsignedLiteral.unsigned_eq (h : UnsignedLiteral cs) : Display.unsigned cs = cs := by
  have hstart : ∀ c ∈ cs.head?, c ≠ '+' ∧ c ≠ '-' := by
    have hdigit : ∀ {ds tail : List Char}, Digits isDigit ds →
        ∀ c ∈ (ds ++ tail).head?, c ≠ '+' ∧ c ≠ '-' := by
      rintro (_ | ⟨d, ds⟩) tail ⟨hne, hds⟩ c hc
      · exact absurd rfl hne
      · have hd := hds d List.mem_cons_self
        cases hc
        constructor <;> rintro rfl <;> exact absurd hd (by decide)
    cases h with
    | infinity => simp
    | decimal h =>
      cases h with
      | whole hds _ => exact hdigit hds
      | pointed hds _ _ => exact hdigit hds
      | fraction _ _ =>
        intro c hc
        cases hc
        decide
  unfold Display.unsigned
  split
  · exact absurd rfl (hstart '+' rfl).1
  · exact absurd rfl (hstart '-' rfl).2
  · rfl

/-- No mark for a radix stands behind a zero in front. -/
def Unmarked (cs : List Char) : Prop :=
  ∀ mark ds, cs = '0' :: mark :: ds → digitsOfMark mark = none

theorem exists_mark_or_unmarked (cs : List Char) :
    (∃ mark ds digit, cs = '0' :: mark :: ds ∧ digitsOfMark mark = some digit) ∨ Unmarked cs := by
  by_cases h : Unmarked cs
  · exact Or.inr h
  · simp only [Unmarked, not_forall] at h
    obtain ⟨mark, ds, hcs, hmark⟩ := h
    obtain ⟨digit, hdigit⟩ := Option.ne_none_iff_exists'.mp hmark
    exact Or.inl ⟨mark, ds, digit, hcs, hdigit⟩

/-- A text without a mark for a radix is a literal if it is one without its
sign. -/
theorem numberLiteral_iff_unsigned (h : Unmarked cs) :
    NumberLiteral cs ↔ UnsignedLiteral (Display.unsigned cs) := by
  constructor
  · intro hcs
    cases hcs with
    | plain hplain =>
      rw [hplain.unsigned_eq]
      exact hplain
    | signed hs hbody => rcases hs with rfl | rfl <;> exact hbody
    | radix hmark _ =>
      rw [h _ _ rfl] at hmark
      cases hmark
  · intro hbody
    unfold Display.unsigned at hbody
    split at hbody
    · exact .signed (Or.inl rfl) hbody
    · exact .signed (Or.inr rfl) hbody
    · exact .plain hbody

/-- A mark neither is a digit nor begins what may follow one. -/
theorem ne_of_digitsOfMark {mark : Char} {digit : Char → Bool}
    (h : digitsOfMark mark = some digit) :
    isDigit mark = false ∧ mark ≠ '.' ∧ mark ≠ 'e' ∧ mark ≠ 'E' := by
  unfold digitsOfMark at h
  split at h
  · rename_i hx
    rcases hx with rfl | rfl <;> decide
  · split at h
    · rename_i ho
      rcases ho with rfl | rfl <;> decide
    · split at h
      · rename_i hb
        rcases hb with rfl | rfl <;> decide
      · cases h

/-- A text with a mark for a radix is a literal if digits of that radix
follow. -/
theorem numberLiteral_iff_digits {mark : Char} {digit : Char → Bool} {ds : List Char}
    (hmark : digitsOfMark mark = some digit) :
    NumberLiteral ('0' :: mark :: ds) ↔ Digits digit ds := by
  constructor
  · intro h
    generalize hcs : '0' :: mark :: ds = cs at h
    cases h with
    | plain hplain =>
      subst hcs
      cases hplain with
      | decimal hdecimal =>
        -- what follows the zero would have to be an exponent
        obtain ⟨hdigit, hpoint, hlower, hupper⟩ := ne_of_digitsOfMark hmark
        have hzero : ∀ c ∈ ['0'], isDigit c = true := List.forall_mem_singleton.mpr (by decide)
        have hstops : Stops isDigit (mark :: ds) := Text.stops_cons.mpr hdigit
        rw [decimalLiteral_iff, ← List.singleton_append, Text.dropWhile_append_of_stops hzero hstops]
          at hdecimal
        split at hdecimal
        · rename_i heq
          cases heq
          exact absurd rfl hpoint
        · cases hdecimal.2 with
          | plain he _ => exact absurd he (not_or.mpr ⟨hlower, hupper⟩)
          | signed he _ _ => exact absurd he (not_or.mpr ⟨hlower, hupper⟩)
    | signed hs _ =>
      cases hcs
      rcases hs with hs | hs <;> cases hs
    | radix hmark' hds =>
      cases hcs
      rw [hmark] at hmark'
      cases hmark'
      exact hds
  · exact fun hds => .radix hmark hds

theorem radixBody_mark (mark : Char) (ds : List Char) :
    Display.radixBody ('0' :: mark :: ds) = (digitsOfMark mark).map (·, ds) := by
  show (if mark = 'x' ∨ mark = 'X' then _ else _) = _
  unfold digitsOfMark
  split_ifs <;> rfl

theorem radixBody_unmarked (h : Unmarked cs) : Display.radixBody cs = none := by
  unfold Display.radixBody
  split
  · rename_i mark ds
    have := radixBody_mark mark ds
    rw [h mark ds rfl] at this
    exact this
  · rfl

theorem radixOf_mark {mark : Char} {digit : Char → Bool} (hmark : digitsOfMark mark = some digit)
    (ds : List Char) :
    ∃ v, radixOf ('0' :: mark :: ds) = some v ∧ (v.isSome = true ↔ Digits digit ds) := by
  have hread : ∀ radix : Nat,
      (if (!ds.isEmpty && ds.all digit) = true then some (digitsValue radix ds)
        else none).isSome = true ↔ Digits digit ds := by
    intro radix
    rw [← digits_iff]
    split <;> simp_all
  unfold digitsOfMark at hmark
  unfold radixOf
  split_ifs at hmark with hx ho hb
  · cases hmark
    exact ⟨_, if_pos hx, hread 16⟩
  · cases hmark
    exact ⟨_, (if_neg hx).trans (if_pos ho), hread 8⟩
  · cases hmark
    exact ⟨_, (if_neg hx).trans ((if_neg ho).trans (if_pos hb)), hread 2⟩

theorem radixOf_unmarked (h : Unmarked cs) : radixOf cs = none := by
  unfold radixOf
  split
  · rename_i mark ds
    have hnone := h mark ds rfl
    unfold digitsOfMark at hnone
    split_ifs at hnone with hx ho hb
    rw [if_neg hx, if_neg ho, if_neg hb]
  · rfl

/-! ## The two programs -/

theorem not_numberLiteral_nil : ¬ NumberLiteral [] := by
  have hunmarked : Unmarked [] := fun mark ds h => by cases h
  rw [numberLiteral_iff_unsigned hunmarked]
  intro h
  cases h with
  | decimal h => cases (decimalLiteral_iff.mp h).1 rfl

theorem unsignedLiteral_iff : UnsignedLiteral cs ↔
    cs = ['I', 'n', 'f', 'i', 'n', 'i', 't', 'y'] ∨ Display.isDecimalLiteral cs = true := by
  rw [isDecimalLiteral_iff]
  constructor
  · intro h
    cases h with
    | infinity => exact Or.inl rfl
    | decimal h => exact Or.inr h
  · rintro (rfl | h)
    · exact .infinity
    · exact .decimal h

/-- What is shown as a number is a literal, once it is trimmed. -/
theorem isNumeric_iff (text : String) :
    Display.isNumeric text = true ↔ NumberLiteral (trimBy Display.isNumberBlank text.toList) := by
  unfold Display.isNumeric
  generalize trimBy Display.isNumberBlank text.toList = cs
  dsimp only
  have hempty : NumberLiteral cs → cs.isEmpty = false := by
    rintro h
    cases cs with
    | nil => exact absurd h not_numberLiteral_nil
    | cons c cs => rfl
  rcases exists_mark_or_unmarked cs with ⟨mark, ds, digit, rfl, hmark⟩ | hunmarked
  · rw [radixBody_mark, hmark, numberLiteral_iff_digits hmark, ← digits_iff]
    simp
  · rw [radixBody_unmarked hunmarked, Bool.and_eq_true, Bool.not_eq_true']
    dsimp only
    rw [Bool.or_eq_true, decide_eq_true_iff, ← unsignedLiteral_iff,
      ← numberLiteral_iff_unsigned hunmarked]
    exact and_iff_right_of_imp hempty

/-- What scripts convert to a number is blank, or a literal once it is
trimmed. -/
theorem isSome_ofText?_trimBy (text : String) :
    (ofText? text).isSome = true ↔
      trimBy isScriptBlank text.toList = [] ∨ NumberLiteral (trimBy isScriptBlank text.toList) := by
  unfold ofText?
  generalize trimBy isScriptBlank text.toList = cs
  dsimp only
  by_cases hempty : cs = []
  · subst hempty
    simp
  · rw [if_neg (by simpa using hempty), or_iff_right hempty]
    rcases exists_mark_or_unmarked cs with ⟨mark, ds, digit, rfl, hmark⟩ | hunmarked
    · obtain ⟨v, hv, hsome⟩ := radixOf_mark hmark ds
      rw [hv, numberLiteral_iff_digits hmark, ← hsome]
      cases v <;> simp
    · rw [radixOf_unmarked hunmarked, numberLiteral_iff_unsigned hunmarked, unsignedLiteral_iff]
      have hbody : ∀ (negative : Bool) (body : List Char),
          ((if body = ['I', 'n', 'f', 'i', 'n', 'i', 't', 'y'] then some (1.0 / 0.0)
            else decimalOf body).map fun x => if negative = true then -x else x).isSome = true ↔
          body = ['I', 'n', 'f', 'i', 'n', 'i', 't', 'y'] ∨ Display.isDecimalLiteral body = true := by
        intro negative body
        rw [Option.isSome_map, isDecimalLiteral_iff, ← isSome_decimalOf]
        split <;> simp_all
      dsimp only
      split
      · exact hbody true _
      · exact hbody false _
      · rename_i hminus hplus
        have hunsigned : Display.unsigned cs = cs := by
          unfold Display.unsigned
          split
          · exact absurd rfl (hplus _)
          · exact absurd rfl (hminus _)
          · rfl
        rw [hunsigned]
        exact hbody false cs

/-! ## Blanks around a literal -/

/-- What is visible in ASCII; all of a literal is. -/
def Visible (c : Char) : Prop := 0x21 ≤ c.toNat ∧ c.toNat ≤ 0x7E

theorem visible_of_between {c lo hi : Char} (h : lo ≤ c ∧ c ≤ hi) (hlo : 0x21 ≤ lo.toNat)
    (hhi : hi.toNat ≤ 0x7E) : Visible c :=
  ⟨Nat.le_trans hlo h.1, Nat.le_trans h.2 hhi⟩

theorem visible_of_isDigit {c : Char} (h : isDigit c = true) : Visible c :=
  visible_of_between (of_decide_eq_true h) (by decide) (by decide)

theorem visible_of_digit {mark : Char} {digit : Char → Bool} (hmark : digitsOfMark mark = some digit)
    {c : Char} (h : digit c = true) : Visible c := by
  unfold digitsOfMark at hmark
  split_ifs at hmark <;> cases hmark
  · rcases of_decide_eq_true h with hdigit | hletter | hletter
    · exact visible_of_isDigit hdigit
    · exact visible_of_between hletter (by decide) (by decide)
    · exact visible_of_between hletter (by decide) (by decide)
  · exact visible_of_between (of_decide_eq_true h) (by decide) (by decide)
  · rcases of_decide_eq_true h with rfl | rfl <;> exact ⟨by decide, by decide⟩

theorem Exponent.visible (h : Exponent cs) : ∀ c ∈ cs, Visible c := by
  have hletter : ∀ {e : Char}, e = 'e' ∨ e = 'E' → Visible e := by
    rintro e (rfl | rfl) <;> exact ⟨by decide, by decide⟩
  have hsign : ∀ {s : Char}, s = '+' ∨ s = '-' → Visible s := by
    rintro s (rfl | rfl) <;> exact ⟨by decide, by decide⟩
  intro c hc
  cases h with
  | absent => cases hc
  | plain he hds =>
    rcases List.mem_cons.mp hc with rfl | hc
    · exact hletter he
    · exact visible_of_isDigit (hds.2 c hc)
  | signed he hs hds =>
    rcases List.mem_cons.mp hc with rfl | hc
    · exact hletter he
    · rcases List.mem_cons.mp hc with rfl | hc
      · exact hsign hs
      · exact visible_of_isDigit (hds.2 c hc)

theorem DecimalLiteral.visible (h : DecimalLiteral cs) : ∀ c ∈ cs, Visible c := by
  have hpoint : Visible '.' := ⟨by decide, by decide⟩
  -- places and exponent stand behind a point in two of the three forms
  have hbehind : ∀ {places tail : List Char}, (∀ c ∈ places, isDigit c = true) → Exponent tail →
      ∀ c ∈ '.' :: (places ++ tail), Visible c := by
    intro places tail hplaces htail c hc
    rcases List.mem_cons.mp hc with rfl | hc
    · exact hpoint
    · rcases List.mem_append.mp hc with hc | hc
      · exact visible_of_isDigit (hplaces c hc)
      · exact htail.visible c hc
  intro c hc
  cases h with
  | whole hds htail =>
    rcases List.mem_append.mp hc with hc | hc
    · exact visible_of_isDigit (hds.2 c hc)
    · exact htail.visible c hc
  | pointed hds hplaces htail =>
    rcases List.mem_append.mp hc with hc | hc
    · exact visible_of_isDigit (hds.2 c hc)
    · exact hbehind hplaces htail c hc
  | fraction hplaces htail => exact hbehind hplaces.2 htail c hc

theorem NumberLiteral.visible (h : NumberLiteral cs) : ∀ c ∈ cs, Visible c := by
  have hunsigned : ∀ {cs : List Char}, UnsignedLiteral cs → ∀ c ∈ cs, Visible c := by
    intro cs hcs
    cases hcs with
    | infinity => simp [Visible]
    | decimal h => exact h.visible
  intro c hc
  cases h with
  | plain h => exact hunsigned h c hc
  | signed hs h =>
    rcases List.mem_cons.mp hc with rfl | hc
    · rcases hs with rfl | rfl <;> exact ⟨by decide, by decide⟩
    · exact hunsigned h c hc
  | radix hmark hds =>
    rcases List.mem_cons.mp hc with rfl | hc
    · exact ⟨by decide, by decide⟩
    · rcases List.mem_cons.mp hc with rfl | hc
      · unfold digitsOfMark at hmark
        split_ifs at hmark with hx ho hb
        · rcases hx with rfl | rfl <;> exact ⟨by decide, by decide⟩
        · rcases ho with rfl | rfl <;> exact ⟨by decide, by decide⟩
        · rcases hb with rfl | rfl <;> exact ⟨by decide, by decide⟩
      · exact visible_of_digit hmark (hds.2 c hc)

/-- Trimming by a class without visible characters uncovers the literal that
stands in it. -/
theorem numberLiteral_trimBy_iff {p : Char → Bool} {blank : Char → Prop}
    (hp : ∀ c, p c = true ↔ blank c) (hblank : ∀ c, blank c → ¬ Visible c) :
    NumberLiteral (trimBy p cs) ↔ Surrounded blank cs := by
  constructor
  · intro h
    obtain ⟨before, after, hcs, hbefore, hafter⟩ := Text.exists_trimBy p cs
    exact ⟨before, trimBy p cs, after, hcs, h, fun c hc => (hp c).mp (hbefore c hc),
      fun c hc => (hp c).mp (hafter c hc)⟩
  · rintro ⟨before, core, after, rfl, h, hbefore, hafter⟩
    have hcore : ∀ c ∈ core, p c = false := by
      intro c hc
      rw [← Bool.not_eq_true, hp]
      exact fun hb => hblank c hb (h.visible c hc)
    rw [Text.trimBy_append (fun c hc => (hp c).mpr (hbefore c hc)) hcore
      (fun c hc => (hp c).mpr (hafter c hc))]
    exact h

theorem isScriptBlank_iff (c : Char) : isScriptBlank c = true ↔ c ∈ scriptBlanks := by
  have hchar : ∀ d : Char, c = d ↔ c.toNat = d.toNat := fun d => Char.toNat_inj.symm
  simp [isScriptBlank, Text.isWhiteSpace, scriptBlanks, hchar]
  omega

theorem isNumberBlank_iff (c : Char) :
    Display.isNumberBlank c = true ↔ c ∈ scriptBlanks ∨ c = '\u0085' := by
  have hchar : c = '\u0085' ↔ c.toNat = 0x85 := Char.toNat_inj.symm
  rw [← isScriptBlank_iff, hchar]
  simp [isScriptBlank, Display.isNumberBlank, Text.isWhiteSpace]
  omega

theorem not_visible_of_mem {c : Char} (h : c ∈ scriptBlanks) : ¬ Visible c := by
  revert c
  simp [scriptBlanks, Visible]

/-- The program that converts texts agrees with the grammar. -/
theorem isSome_ofText? (text : String) :
    (ofText? text).isSome = true ↔ Converts text.toList := by
  rw [isSome_ofText?_trimBy, Converts,
    numberLiteral_trimBy_iff isScriptBlank_iff fun c hc => not_visible_of_mem hc]
  apply or_congr_left
  simp only [Text.trimBy_eq_nil_iff, isScriptBlank_iff]

end Playpen.Decimal
