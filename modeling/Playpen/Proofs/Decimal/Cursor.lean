import Playpen.Display.Numeric
import Playpen.Proofs.Text.Pieces

/-!
# Reading characters by their bytes

The characters of ASCII are told apart by single bytes, and the bytes of other
characters are none of theirs.  So a cursor that stands before a character, and
looks for a class of ASCII, sees what stands at the head of the characters ahead
(`Ahead.looksAt_eq`), and moves on by whole characters.
-/

namespace Playpen.Display

open Playpen.Text (isDigit)

/-! ## Looks stay inside -/

theorem exists_looksAt (p : Char → Bool) (bytes : ByteArray) (i : Nat) :
    ∃ b, looksAt p bytes i = some b := by
  unfold looksAt
  split
  · rename_i hi
    exact ⟨p (Char.ofUInt8 bytes[i]), by rw [getElem?_pos bytes i hi]; rfl⟩
  · exact ⟨false, rfl⟩

theorem exists_skipDigits (bytes : ByteArray) (i : Nat) :
    ∃ j, skipDigits bytes i = some j := by
  fun_induction skipDigits bytes i with
  | case1 i h ih => exact ih
  | case2 i h => exact ⟨i, rfl⟩
  | case3 i h =>
    obtain ⟨b, hb⟩ := exists_looksAt isDigit bytes i
    rw [h] at hb
    cases hb

theorem exists_skipMantissa (bytes : ByteArray) : ∃ r, skipMantissa bytes = some r := by
  obtain ⟨i, hi⟩ := exists_skipDigits bytes 0
  obtain ⟨point, hpoint⟩ := exists_looksAt (· = '.') bytes i
  obtain ⟨j, hj⟩ := exists_skipDigits bytes (i + 1)
  simp only [skipMantissa, hi, hpoint, hj, Option.bind_eq_bind, Option.bind_some]
  split <;> exact ⟨_, rfl⟩

theorem exists_skipSign (bytes : ByteArray) (i : Nat) : ∃ j, skipSign bytes i = some j := by
  obtain ⟨signed, hsigned⟩ := exists_looksAt (fun c => c = '+' ∨ c = '-') bytes i
  simp only [skipSign, hsigned, Option.bind_eq_bind, Option.bind_some]
  split <;> exact ⟨_, rfl⟩

theorem exists_skipExponent (bytes : ByteArray) (i : Nat) :
    ∃ r, skipExponent bytes i = some r := by
  obtain ⟨mark, hmark⟩ := exists_looksAt (fun c => c = 'e' ∨ c = 'E') bytes i
  obtain ⟨first, hfirst⟩ := exists_skipSign bytes (i + 1)
  obtain ⟨j, hj⟩ := exists_skipDigits bytes first
  simp only [skipExponent, hmark, hfirst, hj, Option.bind_eq_bind, Option.bind_some]
  split <;> exact ⟨_, rfl⟩

/-- Whatever the bytes are, no look goes beyond them. -/
theorem exists_scanDecimal (bytes : ByteArray) : ∃ b, scanDecimal bytes = some b := by
  obtain ⟨⟨digits, i⟩, hmantissa⟩ := exists_skipMantissa bytes
  obtain ⟨r, hr⟩ := exists_skipExponent bytes i
  simp only [scanDecimal, hmantissa, hr, Option.bind_eq_bind, Option.bind_some]
  split
  · exact ⟨_, rfl⟩
  · cases r <;> exact ⟨_, rfl⟩

/-! ## The characters ahead -/

/-- The bytes from a place on are those of characters. -/
structure Ahead (bytes : ByteArray) (i : Nat) (cs : List Char) : Prop where
  le : i ≤ bytes.size
  drop_eq : bytes.data.toList.drop i = cs.flatMap String.utf8EncodeChar

theorem ahead_ofList (cs : List Char) : Ahead (String.ofList cs).toUTF8 0 cs := by
  refine ⟨Nat.zero_le _, ?_⟩
  rw [List.drop_zero, String.toUTF8_eq_toByteArray, String.toByteArray_ofList, List.utf8Encode,
    List.data_toByteArray]

variable {bytes : ByteArray} {i : Nat} {c : Char} {cs : List Char} {p : Char → Bool}

theorem Ahead.eq_size_iff (h : Ahead bytes i cs) : i = bytes.size ↔ cs = [] := by
  have hlength : bytes.data.toList.length = bytes.size := Array.length_toList
  have hle := h.le
  have hbytes := h.drop_eq
  cases cs with
  | nil =>
    have hnil := List.drop_eq_nil_iff.mp hbytes
    rw [hlength] at hnil
    exact iff_of_true (by omega) rfl
  | cons c cs =>
    have hne : i ≠ bytes.size := by
      rintro rfl
      rw [← hlength, List.drop_length, List.flatMap_cons] at hbytes
      have hempty := List.append_eq_nil_iff.mp hbytes.symm
      have hpos := c.utf8Size_pos
      rw [← String.length_utf8EncodeChar, hempty.1] at hpos
      exact absurd hpos (by decide)
    exact iff_of_false hne (List.cons_ne_nil c cs)

/-- A character of ASCII is one byte, and any other character begins with a byte
beyond ASCII. -/
theorem exists_utf8EncodeChar (c : Char) :
    ∃ b rest, String.utf8EncodeChar c = b :: rest ∧
      (c.toNat < 128 → Char.ofUInt8 b = c ∧ rest = []) ∧
      (128 ≤ c.toNat → 128 ≤ (Char.ofUInt8 b).toNat) := by
  have hcode : ∀ n < 256, (Char.ofUInt8 (UInt8.ofNat n)).toNat = n := fun n hn =>
    (UInt8.toNat_toUInt32 _).trans (UInt8.toNat_ofNat_of_lt hn)
  have hc : c.val.toNat = c.toNat := rfl
  unfold String.utf8EncodeChar
  rw [hc]
  dsimp only
  split_ifs with hascii htwo hthree
  · refine ⟨_, _, rfl, fun _ => ⟨?_, rfl⟩, fun h => by omega⟩
    rw [← Char.toNat_inj, hcode _ (by omega)]
  · exact ⟨_, _, rfl, fun h => by omega, fun _ => by rw [hcode _ (by omega)]; omega⟩
  · exact ⟨_, _, rfl, fun h => by omega, fun _ => by rw [hcode _ (by omega)]; omega⟩
  · exact ⟨_, _, rfl, fun h => by omega, fun _ => by rw [hcode _ (by omega)]; omega⟩

theorem Ahead.lt (h : Ahead bytes i (c :: cs)) : i < bytes.size :=
  lt_of_le_of_ne h.le fun heq => List.cons_ne_nil c cs (h.eq_size_iff.mp heq)

/-- The byte at a place belongs to the character that stands there. -/
theorem Ahead.getElem (h : Ahead bytes i (c :: cs)) :
    ∃ b rest, bytes[i]? = some b ∧ String.utf8EncodeChar c = b :: rest ∧
      bytes.data.toList.drop (i + 1) = rest ++ cs.flatMap String.utf8EncodeChar := by
  obtain ⟨b, rest, hchar, -, -⟩ := exists_utf8EncodeChar c
  have hi : i < bytes.data.toList.length := h.lt
  have hbytes := h.drop_eq
  rw [List.drop_eq_getElem_cons hi, List.flatMap_cons, hchar, List.cons_append] at hbytes
  obtain ⟨hb, hrest⟩ := List.cons.inj hbytes
  exact ⟨b, rest, (getElem?_pos bytes i h.lt).trans (congrArg some hb), hchar, hrest⟩

theorem Ahead.tail (h : Ahead bytes i (c :: cs)) (hc : c.toNat < 128) : Ahead bytes (i + 1) cs := by
  obtain ⟨b, rest, -, hchar, hrest⟩ := h.getElem
  obtain ⟨b', rest', hchar', hascii, -⟩ := exists_utf8EncodeChar c
  rw [hchar'] at hchar
  cases hchar
  rw [(hascii hc).2, List.nil_append] at hrest
  exact ⟨h.lt, hrest⟩

/-- A class in which all characters are of ASCII. -/
def Ascii (p : Char → Bool) : Prop := ∀ c, p c = true → c.toNat < 128

theorem ascii_isDigit : Ascii isDigit := by
  intro c hc
  have hle : c ≤ '9' := (of_decide_eq_true hc).2
  exact Nat.lt_of_le_of_lt (show c.toNat ≤ '9'.toNat from hle) (by decide)

theorem ascii_of_eq {a : Char} (ha : a.toNat < 128) : Ascii (· = a) := by
  intro c hc
  rw [of_decide_eq_true hc]
  exact ha

theorem ascii_of_eq_or {a b : Char} (ha : a.toNat < 128) (hb : b.toNat < 128) :
    Ascii fun c => c = a ∨ c = b := by
  intro c hc
  rcases of_decide_eq_true hc with rfl | rfl
  · exact ha
  · exact hb

theorem Ahead.looksAt_eq (h : Ahead bytes i cs) (hp : Ascii p) :
    looksAt p bytes i = some (cs.head?.any p) := by
  cases cs with
  | nil =>
    rw [h.eq_size_iff.mpr rfl, looksAt, if_neg (Nat.lt_irrefl _)]
    rfl
  | cons c cs =>
    obtain ⟨b, rest, hb, hchar, -⟩ := h.getElem
    obtain ⟨b', rest', hchar', hascii, hbeyond⟩ := exists_utf8EncodeChar c
    rw [hchar'] at hchar
    cases hchar
    rw [looksAt, if_pos h.lt, hb]
    refine congrArg some ?_
    dsimp only
    by_cases hc : c.toNat < 128
    · rw [(hascii hc).1]
      rfl
    · have hout : ∀ d : Char, 128 ≤ d.toNat → p d = false := fun d hd =>
        Bool.eq_false_iff.mpr fun hpd => absurd (hp d hpd) (Nat.not_lt.mpr hd)
      rw [hout _ (hbeyond (Nat.le_of_not_lt hc))]
      exact (hout c (Nat.le_of_not_lt hc)).symm

/-- Digits are skipped up to the first character that is none. -/
theorem Ahead.skipDigits_eq (h : Ahead bytes i cs) :
    skipDigits bytes i = some (i + (cs.takeWhile isDigit).length) ∧
      Ahead bytes (i + (cs.takeWhile isDigit).length) (cs.dropWhile isDigit) := by
  induction cs generalizing i with
  | nil =>
    have hlook := h.looksAt_eq ascii_isDigit
    rw [skipDigits]
    split
    · rename_i hdigit
      rw [hlook] at hdigit
      cases hdigit
    · exact ⟨rfl, h⟩
    · rename_i hnone
      rw [hlook] at hnone
      cases hnone
  | cons c cs ih =>
    have hlook : looksAt isDigit bytes i = some (isDigit c) := h.looksAt_eq ascii_isDigit
    rw [skipDigits]
    split
    · rename_i hdigit
      rw [hdigit, Option.some.injEq] at hlook
      obtain ⟨hskip, hahead⟩ := ih (h.tail (ascii_isDigit c hlook.symm))
      have hplace : i + ((cs.takeWhile isDigit).length + 1) =
          i + 1 + (cs.takeWhile isDigit).length := by omega
      rw [List.takeWhile_cons_of_pos hlook.symm, List.dropWhile_cons_of_pos hlook.symm,
        List.length_cons, hplace]
      exact ⟨hskip, hahead⟩
    · rename_i hdigit
      rw [hdigit, Option.some.injEq] at hlook
      have hnot : ¬ isDigit c = true := by rw [← hlook]; decide
      rw [List.takeWhile_cons_of_neg hnot, List.dropWhile_cons_of_neg hnot]
      exact ⟨rfl, h⟩
    · rename_i hnone
      rw [hlook] at hnone
      cases hnone

/-- At most one sign is skipped. -/
theorem Ahead.skipSign_eq (h : Ahead bytes i cs) :
    ∃ j, skipSign bytes i = some j ∧ Ahead bytes j (unsigned cs) := by
  have hlook := h.looksAt_eq (ascii_of_eq_or (a := '+') (b := '-') (by decide) (by decide))
  simp only [skipSign, hlook, Option.bind_eq_bind, Option.bind_some]
  cases cs with
  | nil => exact ⟨i, rfl, h⟩
  | cons c cs =>
    rw [List.head?_cons, Option.any_some]
    by_cases hc : c = '+' ∨ c = '-'
    · rw [if_pos (decide_eq_true hc)]
      rcases hc with rfl | rfl <;> exact ⟨i + 1, rfl, h.tail (by decide)⟩
    · obtain ⟨hplus, hminus⟩ := not_or.mp hc
      have hsame : unsigned (c :: cs) = c :: cs := by simp [unsigned, hplus, hminus]
      rw [if_neg (by simpa using hc), hsame]
      exact ⟨i, rfl, h⟩

end Playpen.Display
