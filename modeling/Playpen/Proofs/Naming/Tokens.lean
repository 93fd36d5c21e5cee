import Playpen.Script.Parser.Basic
import Playpen.Proofs.Naming.Identifier
import Mathlib.Data.List.Find

/-!
# The tokens of a list of names

What the engine takes for a token where an identifier stands, or a comma, or
the end, or a character that no token begins with.

`Ahead` says what is left of the text at a place; every lemma about a token is
about what lies ahead, and leaves the rest of the text to the next one.
-/

namespace Playpen.Script

open Playpen.Dependency (startsName IsIdentifier isIdentifier_cons)
open Playpen.Text (goesOn spaces)
open Parse

/-! ## What lies ahead -/

/-- The characters from a place on. -/
def Ahead (src : Array Char) (i : Nat) (cs : List Char) : Prop := src.toList.drop i = cs

namespace Ahead

variable {src : Array Char} {i : Nat} {c : Char} {cs : List Char}

theorem start (cs : List Char) : Ahead cs.toArray 0 cs := rfl

theorem get? (h : Ahead src i cs) : src[i]? = cs.head? := by
  rw [← h, List.head?_drop, Array.getElem?_toList]

theorem next (h : Ahead src i (c :: cs)) : Ahead src (i + 1) cs := by
  unfold Ahead at h ⊢
  rw [← List.drop_drop, h]
  rfl

theorem skip {word : List Char} (h : Ahead src i (word ++ cs)) :
    Ahead src (i + word.length) cs := by
  unfold Ahead at h ⊢
  rw [← List.drop_drop, h, List.drop_left]

theorem length_eq (h : Ahead src i cs) : src.size - i = cs.length := by
  rw [← h, List.length_drop, Array.length_toList]

theorem charAt_eq (h : Ahead src i (c :: cs)) : Lexer.charAt src i = c := by
  have hget := h.get?
  rw [List.head?_cons] at hget
  unfold Lexer.charAt
  rw [Array.getD_eq_getD_getElem?, hget]
  rfl

theorem not_le (h : Ahead src i (c :: cs)) : ¬ i ≥ src.size := by
  have := h.length_eq
  rw [List.length_cons] at this
  omega

theorem le_of_nil (h : Ahead src i []) : i ≥ src.size := by
  have := h.length_eq
  rw [List.length_nil] at this
  omega

end Ahead

/-! ## Characters -/

/-- A character that nothing between tokens begins with. -/
def Solid (c : Char) : Prop :=
  Lexer.isBlank c = false ∧ Lexer.isLineEnd c = false ∧ c ≠ '/'

instance (c : Char) : Decidable (Solid c) := by
  unfold Solid
  infer_instance

theorem ne_of_high {c d : Char} (hc : 128 ≤ c.toNat) (hd : d.toNat < 128) : c ≠ d := by
  rintro rfl
  omega

theorem solid_of_high {c : Char} (hc : 128 ≤ c.toNat)
    (hoff : ∀ s ∈ spaces, ¬ (s.1 ≤ c.toNat ∧ c.toNat ≤ s.2)) : Solid c := by
  have hblank : c ≠ ' ' := ne_of_high hc (by decide)
  have htab : c ≠ '\t' := ne_of_high hc (by decide)
  have hfeed : c ≠ '\n' := ne_of_high hc (by decide)
  have hreturn : c ≠ '\r' := ne_of_high hc (by decide)
  simp only [spaces, List.forall_mem_cons] at hoff
  simp only [Solid, Lexer.isBlank, Lexer.isLineEnd, Text.isWhiteSpace, hblank, htab, hfeed, hreturn]
  refine ⟨?_, ?_, ne_of_high hc (by decide)⟩
  · simp
    omega
  · simp
    omega

theorem solid_of_startsName {c : Char} (h : startsName c = true) : Solid c := by
  by_cases hc : c.toNat < 128
  · have hall : ∀ n < 128, startsName (Char.ofNat n) = true → Solid (Char.ofNat n) := by
      decide +kernel
    have := hall c.toNat hc
    rw [Char.ofNat_toNat] at this
    exact this h
  · refine solid_of_high (Nat.le_of_not_lt hc) fun s hs hin => ?_
    have hstart : Text.isIdStart c = false :=
      (Text.idStart.holds_eq c).trans (Text.spacesOffStart.has hs hin.1 hin.2)
    rw [startsName, hstart, decide_eq_false (ne_of_high (d := '$') (Nat.le_of_not_lt hc) (by decide)),
      decide_eq_false (ne_of_high (d := '_') (Nat.le_of_not_lt hc) (by decide))] at h
    cases h

/-- A character that no token begins with. -/
structure Stray (c : Char) : Prop where
  high : 128 ≤ c.toNat
  off : ∀ s ∈ spaces, ¬ (s.1 ≤ c.toNat ∧ c.toNat ≤ s.2)
  start : startsName c = false

/-- Joiners aside, names go on for the engine as identifiers do. -/
theorem isNamePart_eq {c : Char} (hoff : ∀ s ∈ spaces, ¬ (s.1 ≤ c.toNat ∧ c.toNat ≤ s.2)) :
    Lexer.isNamePart c = goesOn c := by
  simp only [spaces, List.forall_mem_cons] at hoff
  have hnon : ¬ c.toNat = 0x200C := by omega
  have hjoin : ¬ c.toNat = 0x200D := by omega
  rw [Lexer.isNamePart, decide_eq_false hnon, decide_eq_false hjoin, Bool.or_false, Bool.or_false]
  rfl

theorem isNamePart_of_goesOn {c : Char} (h : goesOn c = true) : Lexer.isNamePart c = true := by
  unfold Lexer.isNamePart
  unfold goesOn at h
  rw [h]
  rfl

theorem ne_backslash_of_goesOn {c : Char} (h : goesOn c = true) : c ≠ '\\' := by
  rintro rfl
  exact absurd h (by decide)

theorem goesOn_of_startsName {c : Char} (h : startsName c = true) : goesOn c = true := by
  rw [startsName, Bool.or_eq_true, Bool.or_eq_true, decide_eq_true_iff, decide_eq_true_iff] at h
  rcases h with (hstart | rfl) | rfl
  · rw [goesOn, Text.isIdContinue_of_isIdStart hstart, Bool.true_or]
  · rfl
  · rfl

/-! ## Tokens -/

/-- Nothing that a name goes on with. -/
def Ends (rest : List Char) : Prop := ∀ c ∈ rest.head?, Lexer.isNamePart c = false ∧ c ≠ '\\'

theorem ends_nil : Ends [] := by
  rintro c ⟨⟩

theorem ends_comma (rest : List Char) : Ends (',' :: rest) := by
  rintro _ ⟨⟩
  decide

section

variable {src : Array Char} {i : Nat} {c : Char} {rest : List Char}

/-- One character of a name that is no escape. -/
theorem nameFrom_succ (hget : src[i]? = some c) (hc : c ≠ '\\') (fuel : Nat) (acc : List Char) :
    Lexer.nameFrom src (fuel + 1) i acc false =
      if (if acc.isEmpty then Lexer.isNameStart c else Lexer.isNamePart c) = true then
        Lexer.nameFrom src fuel (i + 1) (c :: acc) false
      else some (acc, i, false) := by
  rw [Lexer.nameFrom, hget]
  split
  · contradiction
  · rename_i heq
    exact absurd (Option.some.inj heq) hc
  · rename_i heq
    rw [← Option.some.inj heq]

theorem nameFrom_rest (hrest : Ends rest) :
    ∀ {cs acc : List Char} {i fuel : Nat}, Ahead src i (cs ++ rest) → acc ≠ [] →
      (∀ d ∈ cs, goesOn d = true) → cs.length ≤ fuel →
        Lexer.nameFrom src fuel i acc false = some (cs.reverse ++ acc, i + cs.length, false)
  | [], acc, i, 0, _, _, _, _ => rfl
  | [], acc, i, fuel + 1, h, hacc, _, _ => by
      have hget : src[i]? = rest.head? := h.get?
      cases hrest' : rest.head? with
      | none =>
        rw [Lexer.nameFrom, hget, hrest']
        rfl
      | some d =>
        obtain ⟨hpart, hslash⟩ := hrest d hrest'
        rw [nameFrom_succ (hget.trans hrest') hslash, List.isEmpty_eq_false_iff.mpr hacc, hpart]
        rfl
  | d :: cs, acc, i, fuel + 1, h, hacc, hall, hfuel => by
      obtain ⟨hd, hcs⟩ := List.forall_mem_cons.mp hall
      rw [nameFrom_succ h.get? (ne_backslash_of_goesOn hd), List.isEmpty_eq_false_iff.mpr hacc,
        isNamePart_of_goesOn hd]
      have htail : Lexer.nameFrom src fuel (i + 1) (d :: acc) false =
          some (cs.reverse ++ d :: acc, i + 1 + cs.length, false) :=
        nameFrom_rest hrest h.next (List.cons_ne_nil _ _) hcs (Nat.le_of_succ_le_succ hfuel)
      rw [if_neg Bool.false_ne_true, if_pos rfl, htail, List.reverse_cons, List.append_assoc,
        List.length_cons, Nat.add_right_comm, Nat.add_assoc]
      rfl

theorem scanWord_eq {w : String} (hw : IsIdentifier w) (h : Ahead src i (w.toList ++ rest))
    (hrest : Ends rest) :
    Lexer.scanWord src i = ⟨.word w, i + w.toList.length, false, []⟩ := by
  obtain ⟨c, cs, hcs, hc, hall⟩ := hw
  have hget : src[i]? = some c := by
    rw [h.get?, hcs]
    rfl
  have hlength := h.length_eq
  rw [hcs, List.length_append, List.length_cons] at hlength
  rw [hcs] at h
  obtain ⟨fuel, hfuel⟩ : ∃ fuel, src.size - i = fuel + 1 := ⟨src.size - i - 1, by omega⟩
  have htail : Lexer.nameFrom src fuel (i + 1) [c] false =
      some (cs.reverse ++ [c], i + 1 + cs.length, false) :=
    nameFrom_rest hrest h.next (List.cons_ne_nil _ _) hall (by omega)
  have hname : Lexer.nameFrom src (src.size - i) i [] false =
      some (cs.reverse ++ [c], i + (c :: cs).length, false) := by
    rw [hfuel, nameFrom_succ hget (ne_backslash_of_goesOn (goesOn_of_startsName hc)),
      List.isEmpty_nil, if_pos rfl, if_pos (show Lexer.isNameStart c = true from hc), htail,
      List.length_cons, Nat.add_right_comm, Nat.add_assoc]
  rw [Lexer.scanWord, hname]
  simp only [List.reverse_append, List.reverse_reverse, List.reverse_singleton,
    List.singleton_append, ← hcs, String.ofList_toList]

theorem scanAt_word {w : String} (place : Place → Nat × Nat) (hw : IsIdentifier w)
    (h : Ahead src i (w.toList ++ rest)) (hrest : Ends rest) :
    Lexer.scanAt place src i = ⟨.word w, i + w.toList.length, false, []⟩ := by
  obtain ⟨c, cs, hcs, hc, -⟩ := id hw
  have hget : src[i]? = some c := by
    rw [h.get?, hcs]
    rfl
  rw [Lexer.scanAt, hget]
  dsimp only
  rw [show Lexer.isNameStart c = true from hc, Bool.true_or, if_pos rfl]
  exact scanWord_eq hw h hrest

/-- Operators begin below U+0080, and only the comma with a comma. -/
theorem operators_head : ∀ o ∈ Lexer.operators,
    o.head?.any (·.toNat < 128) = true ∧ (o.head? = some ',' → o = [',']) := by decide +kernel

theorem head?_of_standsAt {o : List Char} {d : Char} (h : Lexer.standsAt src i o = true)
    (hd : o.head? = some d) : src[i]? = some d := by
  cases o with
  | nil => cases hd
  | cons e o =>
    rw [Lexer.standsAt, Bool.and_eq_true, beq_iff_eq] at h
    rw [← hd]
    exact h.1

theorem scanOperator_comma (h : Ahead src i (',' :: rest)) :
    Lexer.scanOperator src i = some (Lexer.found (.op ",") (i + 1)) := by
  have hget : src[i]? = some ',' := h.get?
  have hstands : ∀ o ∈ Lexer.operators, Lexer.standsAt src i o = (o == [',']) := by
    intro o ho
    rw [Bool.eq_iff_iff, beq_iff_eq]
    constructor
    · intro hstands
      obtain ⟨hany, honly⟩ := operators_head o ho
      obtain ⟨d, hd, -⟩ := (Option.any_eq_true ..).mp hany
      apply honly
      rw [hd, ← head?_of_standsAt hstands hd, hget]
    · rintro rfl
      simp [Lexer.standsAt, hget]
  have hfind : Lexer.operators.find? (Lexer.standsAt src i) = some [','] := by
    rw [List.find?_congr hstands]
    decide +kernel
  rw [Lexer.scanOperator, hfind]
  rfl

theorem scanOperator_stray (hget : src[i]? = some c) (hc : 128 ≤ c.toNat) :
    Lexer.scanOperator src i = none := by
  have hfind : Lexer.operators.find? (Lexer.standsAt src i) = none := by
    rw [List.find?_eq_none]
    intro o ho hstands
    obtain ⟨d, hd, hlow⟩ := (Option.any_eq_true ..).mp (operators_head o ho).1
    rw [head?_of_standsAt hstands hd] at hget
    rw [← Option.some.inj hget] at hc
    exact absurd (of_decide_eq_true hlow) (Nat.not_lt.mpr hc)
  rw [Lexer.scanOperator, hfind]

theorem scanAt_comma (place : Place → Nat × Nat) (h : Ahead src i (',' :: rest)) :
    Lexer.scanAt place src i = Lexer.found (.op ",") (i + 1) := by
  have hget : src[i]? = some ',' := h.get?
  rw [Lexer.scanAt, hget]
  dsimp only
  rw [scanOperator_comma h]
  rfl

theorem scanAt_stray (place : Place → Nat × Nat) (h : Ahead src i (c :: rest)) (hc : Stray c) :
    ∃ complaint, Lexer.scanAt place src i = Lexer.refused (i + 1) complaint := by
  have hget : src[i]? = some c := h.get?
  have hne : ∀ d : Char, d.toNat < 128 → c ≠ d := fun d hd => ne_of_high hc.high hd
  have hdigit : Text.isDigit c = false := by
    have := hc.high
    rw [Text.isDigit, decide_eq_false_iff_not]
    rintro ⟨-, hle⟩
    have : c.toNat ≤ 57 := hle
    omega
  have htick : ¬ c.toNat = 0x60 := by
    have := hc.high
    omega
  rw [Lexer.scanAt, hget]
  dsimp only
  rw [show Lexer.isNameStart c = false from hc.start, hdigit, decide_eq_false (hne '\\' (by decide)),
    decide_eq_false (hne '.' (by decide)), decide_eq_false (hne '"' (by decide)),
    decide_eq_false (hne '\'' (by decide)), if_neg htick, if_neg (hne '#' (by decide)),
    scanOperator_stray hget hc.high]
  exact ⟨_, rfl⟩

/-! ## The next token -/

variable {m : Lexer.Mode}

theorem skipGap_eq (hm : m.typed = false) (h : Ahead src i (c :: rest)) (hc : Solid c)
    (fuel : Nat) (newline fresh : Bool) (comments : List Comment) (complaint : Option Complaint) :
    Lexer.skipGap m src fuel ⟨i, newline, fresh, comments, complaint⟩ =
      ⟨i, newline, fresh, comments, complaint⟩ := by
  obtain ⟨hblank, hend, hslash⟩ := hc
  cases fuel with
  | zero => rfl
  | succ fuel =>
    rw [Lexer.skipGap]
    simp only [h.charAt_eq, h.not_le, hblank, hend, hslash, hm, if_false, decide_false,
      Bool.false_and, Bool.false_eq_true]

/-- Where a token begins at once, nothing lies before it. -/
theorem next_eq (hm : m.typed = false) (h : Ahead src i (c :: rest)) (hc : Solid c) :
    Lexer.next m src i =
      (⟨(Lexer.scanAt (Lexer.lineColumn src) src i).kind, i,
          (Lexer.scanAt (Lexer.lineColumn src) src i).stop, false,
          (Lexer.scanAt (Lexer.lineColumn src) src i).escaped⟩,
        ⟨i, false, decide (i = 0), [], none⟩,
        (Lexer.scanAt (Lexer.lineColumn src) src i).complaints) := by
  rw [Lexer.next, skipGap_eq hm h hc]
  rfl

theorem next_nil (h : Ahead src i []) :
    Lexer.next m src i =
      (⟨.stop, i, i, false, false⟩, ⟨i, false, decide (i = 0), [], none⟩, []) := by
  have hskip : Lexer.skipGap m src (src.size + 1 - i) ⟨i, false, decide (i = 0), [], none⟩ =
      ⟨i, false, decide (i = 0), [], none⟩ := by
    cases src.size + 1 - i with
    | zero => rfl
    | succ fuel => rw [Lexer.skipGap, if_pos h.le_of_nil]
  have hscan : Lexer.scanAt (Lexer.lineColumn src) src i = Lexer.found .stop i := by
    rw [Lexer.scanAt, h.get?]
    rfl
  rw [Lexer.next, hskip]
  dsimp only
  rw [hscan]
  rfl

end

/-! ## Reading on -/

/-- The engine has read a text up to a place and has nothing to complain of. -/
structure Reading (i : Nat) (cs : List Char) (s : ParseState) : Prop where
  typed : s.mode.typed = false
  script : s.mode.isModule = false
  badTokens : s.badTokens = []
  regexes : s.regexes = []
  ahead : Ahead s.src i cs

/-- The current token, and what lies behind it. -/
structure At (kind : TokenKind) (rest : List Char) (s : ParseState) : Prop where
  kind : s.token.kind = kind
  reading : Reading s.token.stop rest s

section

variable {s : ParseState} {i : Nat} {c : Char} {rest : List Char}

theorem Reading.word {w : String} (h : Reading i (w.toList ++ rest) s) (hw : IsIdentifier w)
    (hrest : Ends rest) : At (.word w) rest (setToken s i) := by
  obtain ⟨c, cs, hcs, hc, -⟩ := id hw
  have hahead : Ahead s.src i (c :: (cs ++ rest)) := by
    have := h.ahead
    rwa [hcs] at this
  rw [setToken, next_eq h.typed hahead (solid_of_startsName hc), scanAt_word _ hw h.ahead hrest]
  exact ⟨rfl, h.typed, h.script, h.badTokens, h.regexes, h.ahead.skip⟩

theorem Reading.comma (h : Reading i (',' :: rest) s) : At (.op ",") rest (setToken s i) := by
  rw [setToken, next_eq h.typed h.ahead (by decide), scanAt_comma _ h.ahead]
  exact ⟨rfl, h.typed, h.script, h.badTokens, h.regexes, h.ahead.next⟩

theorem Reading.done (h : Reading i [] s) : At .stop [] (setToken s i) := by
  rw [setToken, next_nil h.ahead]
  exact ⟨rfl, h.typed, h.script, h.badTokens, h.regexes, h.ahead⟩

/-- A plain script ends with what the engine refuses. -/
theorem Reading.refuse {cs : List Char} (h : Reading i cs s) (c : Complaint) :
    Parse.refuse c s = .error c s := by
  simp [Parse.refuse, h.typed, h.script]

theorem checkToken_ok (h : s.badTokens = []) : checkToken s = .ok () s := by
  rw [checkToken, h]

/-- The engine goes no further than to a character that no token begins with. -/
theorem Reading.stray (h : Reading i (c :: rest) s) (hc : Stray c) :
    ∃ e, checkToken (setToken s i) = .error e (setToken s i) := by
  obtain ⟨complaint, hscan⟩ := scanAt_stray (Lexer.lineColumn s.src) h.ahead hc
  have hbad : (setToken s i).badTokens = [complaint] := by
    rw [setToken, next_eq h.typed h.ahead (solid_of_high hc.high hc.off), hscan]
    show [complaint] ++ s.badTokens = _
    rw [h.badTokens]
    rfl
  have htyped : (setToken s i).mode.typed = false := h.typed
  have hscript : (setToken s i).mode.isModule = false := h.script
  refine ⟨complaint, ?_⟩
  rw [checkToken, hbad]
  simp [Parse.refuse, htyped, hscript]

end

end Playpen.Script
