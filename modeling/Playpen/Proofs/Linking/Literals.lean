import Playpen.Script.Written
import Playpen.Proofs.Text.Classes

/-!
# One literal, two texts

The engine turns the units of a literal into text when it resolves it, and the
transpiler has handed on a text of its own.  Both go through code points, which
differ only where a half of a surrogate pair is kept apart: there the engine
writes a backslash and the transpiler U+FFFD.  Counting that character tells
the two texts apart (`handed_ne_display`), while without such a half both are
the characters that the pieces stand for (`handed_eq_display`).
-/

namespace Playpen.Text.Wide

open Script.Written (isHalf)

/-! ## Code points of units -/

theorem isHigh_iff {u : UInt16} : isHigh u = true ↔ 0xD800 ≤ u.toNat ∧ u.toNat < 0xDC00 := by
  simp [isHigh, UInt16.le_iff_toNat_le, UInt16.lt_iff_toNat_lt]

theorem isLow_iff {u : UInt16} : isLow u = true ↔ 0xDC00 ≤ u.toNat ∧ u.toNat < 0xE000 := by
  simp [isLow, UInt16.le_iff_toNat_le, UInt16.lt_iff_toNat_lt]

theorem isHalf_iff {n : Nat} : isHalf n = true ↔ 0xD800 ≤ n ∧ n < 0xE000 := by
  simp [isHalf]

theorem isHalf_unit (u : UInt16) : isHalf u.toNat = (isHigh u || isLow u) := by
  rw [Bool.eq_iff_iff, Bool.or_eq_true, isHalf_iff, isHigh_iff, isLow_iff]
  omega

theorem isHalf_pairValue (hi lo : UInt16) : isHalf (pairValue hi lo) = false := by
  have hle : 0x10000 ≤ pairValue hi lo := by
    unfold pairValue
    omega
  rw [Bool.eq_false_iff, Ne, isHalf_iff]
  omega

/-- The code points of units; a half without the other stands for itself. -/
def points : List UInt16 → List Nat
  | [] => []
  | [u] => [u.toNat]
  | hi :: lo :: rest =>
    if isHigh hi && isLow lo then pairValue hi lo :: points rest else hi.toNat :: points (lo :: rest)

theorem points_pair {hi lo : UInt16} (hhi : isHigh hi = true) (hlo : isLow lo = true)
    (us : List UInt16) : points (hi :: lo :: us) = pairValue hi lo :: points us := by
  rw [points, hhi, hlo]
  rfl

theorem points_cons {u : UInt16} {us : List UInt16}
    (h : isHigh u = true → ∀ lo, us.head? = some lo → isLow lo = false) :
    points (u :: us) = u.toNat :: points us := by
  cases us with
  | nil => rfl
  | cons lo rest =>
    rw [points, if_neg]
    intro hpair
    rw [Bool.and_eq_true] at hpair
    exact absurd (h hpair.1 lo rfl) (by simp [hpair.2])

theorem points_cons_of_not_isHalf {u : UInt16} (h : isHalf u.toNat = false) (us : List UInt16) :
    points (u :: us) = u.toNat :: points us := by
  refine points_cons fun hu => ?_
  rw [isHalf_unit, hu] at h
  cases h

theorem drop_toList {us : Array UInt16} {i : Nat} (h : i < us.size) :
    us.toList.drop i = us[i] :: us.toList.drop (i + 1) :=
  List.drop_eq_getElem_cons (by simpa using h)

/-- The unit behind position `i`, seen from the list. -/
theorem head?_drop_toList {us : Array UInt16} {i : Nat} {u : UInt16}
    (h : (us.toList.drop i).head? = some u) : ∃ hi : i < us.size, us[i] = u := by
  rw [List.head?_drop, Array.getElem?_toList] at h
  exact Array.getElem?_eq_some_iff.mp h

theorem points_drop_pair {us : Array UInt16} {i : Nat} (h : i < us.size) (h' : i + 1 < us.size)
    (hhi : isHigh us[i] = true) (hlo : isLow us[i + 1] = true) :
    points (us.toList.drop i) = pairValue us[i] us[i + 1] :: points (us.toList.drop (i + 2)) := by
  rw [drop_toList h, drop_toList h', points_pair hhi hlo]

theorem points_drop_alone {us : Array UInt16} {i : Nat} (h : i < us.size)
    (halone : isHigh us[i] = true → ∀ h' : i + 1 < us.size, isLow us[i + 1] = false) :
    points (us.toList.drop i) = us[i].toNat :: points (us.toList.drop (i + 1)) := by
  rw [drop_toList h]
  refine points_cons fun hhi lo hlo => ?_
  obtain ⟨h', rfl⟩ := head?_drop_toList hlo
  exact halone hhi h'

theorem toList_codePointsFrom (us : Array UInt16) (i : Nat) (acc : Array Nat) :
    (codePointsFrom us i acc).toList = acc.toList ++ points (us.toList.drop i) := by
  fun_induction codePointsFrom us i acc with
  | case1 i acc h u hhi h' hlo ih =>
    rw [ih, Array.toList_push, List.append_assoc, points_drop_pair h h' hhi hlo]
    rfl
  | case2 i acc h u hhi h' hlo ih =>
    rw [ih, Array.toList_push, List.append_assoc,
      points_drop_alone h fun _ _ => Bool.eq_false_iff.mpr hlo]
    rfl
  | case3 i acc h u hhi h' ih =>
    rw [ih, Array.toList_push, List.append_assoc, points_drop_alone h fun _ h'' => absurd h'' h']
    rfl
  | case4 i acc h u hhi ih =>
    rw [ih, Array.toList_push, List.append_assoc, points_drop_alone h fun hhi' => absurd hhi' hhi]
    rfl
  | case5 i acc h =>
    rw [List.drop_eq_nil_of_le (by simpa using h), points, List.append_nil]

/-- Units are text when no half stands alone among them. -/
theorem decodeFrom_eq (us : Array UInt16) (i : Nat) (acc : String) :
    decodeFrom us i acc =
      if (points (us.toList.drop i)).any isHalf then none
      else some (acc ++ String.ofList ((points (us.toList.drop i)).map Char.ofNat)) := by
  have hpush : ∀ (acc : String) (n : Nat) (ns : List Nat), isHalf n = false →
      (if ns.any isHalf then none
        else some (acc.push (Char.ofNat n) ++ String.ofList (ns.map Char.ofNat))) =
      if (n :: ns).any isHalf then none
        else some (acc ++ String.ofList ((n :: ns).map Char.ofNat)) := by
    intro acc n ns hn
    rw [List.any_cons, hn, Bool.false_or, List.map_cons, String.ofList_cons, ← String.append_assoc,
      String.append_singleton]
  have hhalf : ∀ (acc : String) (n : Nat) (ns : List Nat), isHalf n = true →
      (none : Option String) = if (n :: ns).any isHalf then none
        else some (acc ++ String.ofList ((n :: ns).map Char.ofNat)) := by
    intro acc n ns hn
    rw [List.any_cons, hn]
    rfl
  fun_induction decodeFrom us i acc with
  | case1 i acc h u hhi h' hlo ih =>
    rw [ih, points_drop_pair h h' hhi hlo, hpush _ _ _ (isHalf_pairValue ..)]
  | case2 i acc h u hhi h' hlo =>
    rw [points_drop_alone h fun _ _ => Bool.eq_false_iff.mpr hlo]
    exact hhalf acc _ _ (by rw [isHalf_unit, hhi, Bool.true_or])
  | case3 i acc h u hhi h' =>
    rw [points_drop_alone h fun _ h'' => absurd h'' h']
    exact hhalf acc _ _ (by rw [isHalf_unit, hhi, Bool.true_or])
  | case4 i acc h u hhi hlo =>
    rw [points_drop_alone h fun hhi' => absurd hhi' hhi]
    exact hhalf acc _ _ (by rw [isHalf_unit, hlo, Bool.or_true])
  | case5 i acc h u hhi hlo ih =>
    rw [ih, points_drop_alone h fun hhi' => absurd hhi' hhi, hpush _ _ _ ?_]
    rw [isHalf_unit, Bool.or_eq_false_iff]
    exact ⟨Bool.eq_false_iff.mpr hhi, Bool.eq_false_iff.mpr hlo⟩
  | case6 i acc h =>
    rw [List.drop_eq_nil_of_le (by simpa using h)]
    simp [points]

/-! ## The engine's text -/

/-- A code point in the engine's text. -/
def shownPoint (n : Nat) : List Char :=
  if isHalf n then '\\' :: 'u' :: (hex4 n).toList else [Char.ofNat n]

theorem flatMap_shownPoint {ns : List Nat} (h : ns.any isHalf = false) :
    ns.flatMap shownPoint = ns.map Char.ofNat := by
  rw [List.map_eq_flatMap]
  refine List.flatMap_congr fun n hn => ?_
  rw [shownPoint, if_neg]
  simpa using List.any_eq_false.mp h n hn

theorem toList_display_broken (us : Array UInt16) :
    (broken us).display.toList = (points us.toList).flatMap shownPoint := by
  have hfold : ∀ (ns : List Nat) (acc : String),
      (ns.foldl (fun acc n =>
        if 0xD800 ≤ n ∧ n < 0xE000 then acc ++ "\\u" ++ hex4 n else acc.push (Char.ofNat n)) acc).toList
        = acc.toList ++ ns.flatMap shownPoint := by
    intro ns
    induction ns with
    | nil => simp
    | cons n ns ih =>
      intro acc
      rw [List.foldl_cons, ih, List.flatMap_cons, ← List.append_assoc]
      congr 1
      by_cases hn : isHalf n = true
      · rw [if_pos (isHalf_iff.mp hn), shownPoint, if_pos hn]
        simp
      · rw [if_neg fun h => hn (isHalf_iff.mpr h), shownPoint, if_neg hn]
        simp
  show ((codePointsFrom us 0 #[]).foldl _ "").toList = _
  rw [← Array.foldl_toList, hfold, toList_codePointsFrom]
  rfl

/-- What the engine shows of units. -/
theorem toList_display_ofUnits (us : Array UInt16) :
    (ofUnits us).display.toList = (points us.toList).flatMap shownPoint := by
  unfold ofUnits
  rw [decodeFrom_eq, List.drop_zero]
  cases hany : (points us.toList).any isHalf with
  | true => exact toList_display_broken us
  | false =>
    rw [flatMap_shownPoint hany]
    simp [display]

/-! ## Units of a code point -/

theorem toList_pushCodePoint {n : Nat} (hn : n < 0x10000) :
    (pushCodePoint #[] n).toList = [n.toUInt16] := by
  rw [pushCodePoint, if_pos hn]
  rfl

/-- A code point beyond the units is written as a pair. -/
theorem exists_pair {n : Nat} (hn : 0x10000 ≤ n) (hlt : n < 0x110000) :
    ∃ hi lo : UInt16, (pushCodePoint #[] n).toList = [hi, lo] ∧ isHigh hi = true ∧
      isLow lo = true ∧ pairValue hi lo = n := by
  refine ⟨(0xD800 + (n - 0x10000) / 0x400).toUInt16, (0xDC00 + (n - 0x10000) % 0x400).toUInt16,
    ?_, ?_, ?_, ?_⟩
  · rw [pushCodePoint, if_neg (by omega)]
    rfl
  · rw [isHigh_iff, UInt16.toNat_ofNat']
    omega
  · rw [isLow_iff, UInt16.toNat_ofNat']
    omega
  · rw [pairValue, UInt16.toNat_ofNat', UInt16.toNat_ofNat']
    omega

/-- The units of a character lead back to it. -/
theorem points_pushCodePoint {n : Nat} (hlt : n < 0x110000) (hn : isHalf n = false)
    (us : List UInt16) : points ((pushCodePoint #[] n).toList ++ us) = n :: points us := by
  by_cases hsmall : n < 0x10000
  · have hunit : n.toUInt16.toNat = n := by
      rw [UInt16.toNat_ofNat']
      omega
    rw [toList_pushCodePoint hsmall, List.singleton_append,
      points_cons_of_not_isHalf (by rwa [hunit]), hunit]
  · obtain ⟨hi, lo, hunits, hhi, hlo, hpair⟩ := exists_pair (by omega) hlt
    rw [hunits, List.cons_append, List.singleton_append, points_pair hhi hlo, hpair]

/-! ## Counting U+FFFD -/

theorem ne_of_isHalf {u : UInt16} (h : isHalf u.toNat = true) : u ≠ 0xFFFD := by
  rintro rfl
  exact absurd h (by decide)

theorem count_pushCodePoint {n : Nat} (hlt : n < 0x110000) :
    (pushCodePoint #[] n).toList.count 0xFFFD = if n = 0xFFFD then 1 else 0 := by
  by_cases hsmall : n < 0x10000
  · rw [toList_pushCodePoint hsmall, List.count_singleton]
    congr 1
    rw [beq_iff_eq, ← UInt16.toNat_inj, UInt16.toNat_ofNat', eq_iff_iff]
    show n % 2 ^ 16 = 0xFFFD ↔ _
    omega
  · obtain ⟨hi, lo, hunits, hhi, hlo, -⟩ := exists_pair (by omega) hlt
    rw [hunits, List.count_cons_of_ne (ne_of_isHalf (by rw [isHalf_unit, hhi, Bool.true_or])),
      List.count_cons_of_ne (ne_of_isHalf (by rw [isHalf_unit, hlo, Bool.or_true])),
      List.count_nil, if_neg (by omega)]

theorem count_toNat (u : UInt16) : [u.toNat].count 0xFFFD = [u].count 0xFFFD := by
  rw [List.count_singleton, List.count_singleton]
  congr 1
  rw [beq_iff_eq, beq_iff_eq, ← UInt16.toNat_inj]
  rfl

theorem count_pair {hi lo : UInt16} (hhi : isHigh hi = true) (hlo : isLow lo = true) :
    [pairValue hi lo].count 0xFFFD = [hi, lo].count 0xFFFD := by
  have hpair : pairValue hi lo ≠ 0xFFFD := by
    unfold pairValue
    omega
  rw [List.count_cons_of_ne hpair,
    List.count_cons_of_ne (ne_of_isHalf (by rw [isHalf_unit, hhi, Bool.true_or])),
    List.count_cons_of_ne (ne_of_isHalf (by rw [isHalf_unit, hlo, Bool.or_true]))]
  rfl

theorem count_points (us : List UInt16) : (points us).count 0xFFFD = us.count 0xFFFD := by
  fun_induction points us with
  | case1 => rfl
  | case2 u => exact count_toNat u
  | case3 hi lo rest hpair ih =>
    rw [Bool.and_eq_true] at hpair
    rw [← List.singleton_append, List.count_append, ih, count_pair hpair.1 hpair.2,
      ← List.count_append]
    rfl
  | case4 hi lo rest hpair ih =>
    rw [← List.singleton_append, List.count_append, ih, count_toNat, ← List.count_append]
    rfl

end Playpen.Text.Wide

namespace Playpen.Script

open Playpen.Text (Wide)
open Playpen.Text.Wide (points shownPoint)

namespace Written

/-! ## The pieces of a literal -/

/-- The units of pieces, in a row. -/
def unitsOf (ps : List Piece) : List UInt16 := ps.flatMap (·.units.toList)

theorem toList_foldl_units (ps : List Piece) (us : Array UInt16) :
    (ps.foldl (fun us p => us ++ p.units) us).toList = us.toList ++ unitsOf ps := by
  induction ps generalizing us with
  | nil => simp [unitsOf]
  | cons p ps ih => rw [List.foldl_cons, ih, Array.toList_append, List.append_assoc]; rfl

theorem toList_display_wide (w : Written) :
    w.wide.display.toList = (points (unitsOf w.pieces)).flatMap shownPoint := by
  rw [wide, Wide.toList_display_ofUnits, toList_foldl_units]
  rfl

theorem char_lt (c : Char) : c.toNat < 0x110000 := by
  rcases c.valid with h | ⟨-, h⟩
  · exact Nat.lt_trans h (by decide)
  · exact h

/-- Where no half is kept apart, both read the same code points: the induction
follows the transpiler's reading. -/
theorem points_unitsOf {ps : List Piece} (h : (pointsOf ps).any isHalf = false) :
    points (unitsOf ps) = pointsOf ps := by
  fun_induction pointsOf ps with
  | case1 => rfl
  | case2 hi lo rest hpair ih =>
    rw [List.any_cons, Bool.or_eq_false_iff] at h
    rw [Bool.and_eq_true] at hpair
    show points (hi :: lo :: unitsOf rest) = _
    rw [Wide.points_pair hpair.1 hpair.2, ih h.2]
  | case3 hi lo rest _ ih | case4 hi rest _ ih =>
    rw [List.any_cons, Bool.or_eq_false_iff] at h
    show points (hi :: unitsOf _) = _
    rw [Wide.points_cons_of_not_isHalf h.1, ih h.2]
  | case5 c rest ih =>
    rw [List.any_cons, Bool.or_eq_false_iff] at h
    show points ((Wide.pushCodePoint #[] c.toNat).toList ++ unitsOf rest) = _
    rw [Wide.points_pushCodePoint (char_lt c) h.1, ih h.2]
  | case6 n rest ih =>
    rw [List.any_cons, Bool.or_eq_false_iff] at h
    show points ((Wide.pushCodePoint #[] n.val).toList ++ unitsOf rest) = _
    rw [Wide.points_pushCodePoint n.isLt h.1, ih h.2]
  | case7 rest ih => exact ih h

/-- However the halves are joined, U+FFFD is read as often as it is a unit. -/
theorem count_pointsOf (ps : List Piece) :
    (pointsOf ps).count 0xFFFD = (unitsOf ps).count 0xFFFD := by
  have hcons : ∀ (n : Nat) (us : List UInt16) (rest : List Piece),
      [n].count 0xFFFD = us.count 0xFFFD →
      (pointsOf rest).count 0xFFFD = (unitsOf rest).count 0xFFFD →
        (n :: pointsOf rest).count 0xFFFD = (us ++ unitsOf rest).count 0xFFFD := by
    intro n us rest hn ih
    rw [← List.singleton_append, List.count_append, hn, ih, List.count_append]
  have hpoint : ∀ n < 0x110000,
      [n].count 0xFFFD = (Wide.pushCodePoint #[] n).toList.count 0xFFFD := by
    intro n hn
    rw [Wide.count_pushCodePoint hn, List.count_singleton]
    simp
  fun_induction pointsOf ps with
  | case1 => rfl
  | case2 hi lo rest hpair ih =>
    rw [Bool.and_eq_true] at hpair
    exact hcons _ [hi, lo] rest (Wide.count_pair hpair.1 hpair.2) ih
  | case3 hi lo rest _ ih => exact hcons _ [hi] (.unit lo :: rest) (Wide.count_toNat hi) ih
  | case4 u rest _ ih => exact hcons _ [u] rest (Wide.count_toNat u) ih
  | case5 c rest ih => exact hcons _ _ rest (hpoint _ (char_lt c)) ih
  | case6 n rest ih => exact hcons _ _ rest (hpoint _ n.isLt) ih
  | case7 rest ih => exact ih

/-! ## The two texts -/

/-- Where no half is kept apart, the text that is handed on is the one that the
engine resolves. -/
theorem handed_eq_display {w : Written} (h : w.isTorn = false) : w.handed = w.wide.display := by
  rw [← String.toList_inj, toList_display_wide, points_unitsOf h, Wide.flatMap_shownPoint h, handed,
    h]
  exact String.toList_ofList

theorem count_flatMap {f : Nat → List Char} {p : Nat → Bool} {a : Char}
    (h : ∀ n, (f n).count a = if p n then 1 else 0) (ns : List Nat) :
    (ns.flatMap f).count a = ns.countP p := by
  induction ns with
  | nil => rfl
  | cons n ns ih => rw [List.flatMap_cons, List.count_append, h, ih, List.countP_cons, Nat.add_comm]

theorem hexDigit_ne : ∀ d < 16,
    let c := Char.ofNat (if d < 10 then 48 + d else 55 + d)
    c ≠ '\uFFFD' ∧ c.toLower ≠ '\uFFFD' := by
  decide

theorem not_mem_hex4 (n : Nat) :
    '\uFFFD' ∉ (Wide.hex4 n).toList ∧ '\uFFFD' ∉ (Wide.hex4 n).toList.map Char.toLower := by
  have hdigit (k : Nat) := hexDigit_ne (n / Nat.pow 16 k % 16) (Nat.mod_lt _ (by decide))
  constructor
  · intro hmem
    simp only [Wide.hex4, String.toList_ofList, List.mem_cons, List.not_mem_nil, or_false] at hmem
    rcases hmem with h | h | h | h <;> exact (hdigit _).1 h.symm
  · intro hmem
    simp only [Wide.hex4, String.toList_ofList, List.map_cons, List.map_nil, List.mem_cons,
      List.not_mem_nil, or_false] at hmem
    rcases hmem with h | h | h | h <;> exact (hdigit _).2 h.symm

theorem ofNat_eq_replacement_iff {n : Nat} : Char.ofNat n = '\uFFFD' ↔ n = 0xFFFD := by
  constructor
  · intro h
    by_cases hn : n.isValidChar
    · rw [← Text.toNat_ofNat_of_valid hn, h]
      rfl
    · rw [Char.ofNat, dif_neg hn] at h
      exact absurd h (by decide)
  · rintro rfl
    rfl

theorem count_singleton_ofNat (n : Nat) :
    [Char.ofNat n].count '\uFFFD' = if n = 0xFFFD then 1 else 0 := by
  rw [List.count_singleton]
  simp only [beq_iff_eq, ofNat_eq_replacement_iff]

theorem count_shownPoint (n : Nat) :
    (shownPoint n).count '\uFFFD' = if n == 0xFFFD then 1 else 0 := by
  simp only [shownPoint, beq_iff_eq]
  split
  · rename_i hhalf
    rw [List.count_cons_of_ne (by decide), List.count_cons_of_ne (by decide),
      List.count_eq_zero_of_not_mem (not_mem_hex4 n).1, if_neg]
    rintro rfl
    exact absurd hhalf (by decide)
  · exact count_singleton_ofNat n

theorem count_escapedPoint (n : Nat) :
    (escapedPoint n).count '\uFFFD' = if isHalf n || n == 0xFFFD then 1 else 0 := by
  rw [escapedPoint]
  simp only [Bool.or_eq_true, decide_eq_true_eq, beq_iff_eq]
  split
  · rw [List.count_cons_self, List.count_eq_zero_of_not_mem (not_mem_hex4 n).2]
  · rename_i hplain
    rw [count_singleton_ofNat, if_neg fun h => hplain (.inr h)]

theorem count_lt_countP {ns : List Nat} (h : ns.any isHalf = true) :
    ns.countP (· == 0xFFFD) < ns.countP fun n => isHalf n || n == 0xFFFD := by
  induction ns with
  | nil => cases h
  | cons n ns ih =>
    have hle : ns.countP (· == 0xFFFD) ≤ ns.countP fun n => isHalf n || n == 0xFFFD :=
      List.countP_mono_left fun n _ hn => by simp [hn]
    rw [List.countP_cons, List.countP_cons]
    rw [List.any_cons, Bool.or_eq_true] at h
    rcases h with hn | hns
    · have hother : (n == 0xFFFD) = false := by
        rw [beq_eq_false_iff_ne]
        rintro rfl
        exact absurd hn (by decide)
      rw [hn, hother]
      simpa using Nat.lt_succ_of_le hle
    · have := ih hns
      cases n == 0xFFFD <;> cases isHalf n <;> simp <;> omega

/-- A half that is kept apart is escaped in the text that is handed on, by a
character that the engine does not write for it. -/
theorem handed_ne_display {w : Written} (h : w.isTorn = true) : w.handed ≠ w.wide.display := by
  intro heq
  have hcount := congrArg (fun s => s.toList.count '\uFFFD') heq
  simp only [handed, h, toList_display_wide, if_true, String.toList_ofList] at hcount
  rw [count_flatMap count_escapedPoint, count_flatMap count_shownPoint] at hcount
  have hlt := count_lt_countP h
  have hsame : (points (unitsOf w.pieces)).countP (· == 0xFFFD) =
      (pointsOf w.pieces).countP (· == 0xFFFD) := by
    show (points (unitsOf w.pieces)).count 0xFFFD = (pointsOf w.pieces).count 0xFFFD
    rw [Wide.count_points, count_pointsOf]
  omega

/-- The transpiler hands on the text that the engine resolves just where it
keeps no half of a surrogate pair apart. -/
theorem handed_eq_display_iff (w : Written) : w.handed = w.wide.display ↔ w.isTorn = false := by
  constructor
  · intro h
    rw [← Bool.not_eq_true]
    exact fun htorn => handed_ne_display htorn h
  · exact handed_eq_display

end Written

end Playpen.Script
