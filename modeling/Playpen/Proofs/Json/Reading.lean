import Playpen.Json.Read
import Playpen.Proofs.Json.Grammar
import Mathlib.Algebra.Group.Int.Defs
import Mathlib.Algebra.Group.Nat.Defs
import Mathlib.Data.List.TakeWhile

/-!
# What readers make of text

A reader is followed by the text it leaves: `Leads r cs r' cs'` says that `r`,
standing before `cs`, comes to what `r'` comes to before `cs'`.  Lines and
columns are left out of it, since no value depends on them.

Here are the scalars.  Whatever is written is read back, and what follows it is
left: words, whole numbers (`leads_number`) and strings, with their escapes as
they are written here (`leads_string`) or in any other way the grammar has
(`leads_string_of_spelled`).
-/

namespace Playpen.Json

/-! ## Following a reader -/

/-- What `r` does before `cs` is what `r'` does before `cs'`. -/
def Leads {α : Type} (r : Reader α) (cs : List Char) (r' : Reader α) (cs' : List Char) : Prop :=
  ∀ c : Cursor, c.rest = cs → ∃ c' : Cursor, c'.rest = cs' ∧ r c = r' c'

section

variable {α β : Type} {r r' r'' : Reader α} {f : α → Reader β} {a : α} {c : Char}
  {cs cs' cs'' : List Char}

theorem Leads.refl (r : Reader α) (cs : List Char) : Leads r cs r cs :=
  fun k hk => ⟨k, hk, rfl⟩

theorem Leads.trans (h : Leads r cs r' cs') (h' : Leads r' cs' r'' cs'') :
    Leads r cs r'' cs'' := by
  intro k hk
  obtain ⟨k', hk', hr⟩ := h k hk
  obtain ⟨k'', hk'', hr'⟩ := h' k' hk'
  exact ⟨k'', hk'', hr.trans hr'⟩

/-- The first of two readers has given its value. -/
theorem Leads.bind (h : Leads r cs (pure a) cs') : Leads (r >>= f) cs (f a) cs' := by
  intro k hk
  obtain ⟨k', hk', hr⟩ := h k hk
  refine ⟨k', hk', ?_⟩
  show EStateM.bind r f k = f a k'
  unfold EStateM.bind
  rw [hr]
  rfl

/-- Only the first of two readers has been followed. -/
theorem Leads.bind_left (h : Leads r cs r' cs') : Leads (r >>= f) cs (r' >>= f) cs' := by
  intro k hk
  obtain ⟨k', hk', hr⟩ := h k hk
  refine ⟨k', hk', ?_⟩
  show EStateM.bind r f k = EStateM.bind r' f k'
  unfold EStateM.bind
  rw [hr]

namespace Reader

theorem rest_pass (k : Cursor) (c : Char) (rest : List Char) : (k.pass c rest).rest = rest := by
  unfold Cursor.pass
  split
  · rfl
  · rfl

theorem leads_peek (cs : List Char) : Leads peek cs (pure cs.head?) cs := by
  rintro k rfl
  exact ⟨k, rfl, rfl⟩

theorem leads_next (c : Char) (cs : List Char) : Leads next (c :: cs) (pure (some c)) cs := by
  intro k hk
  refine ⟨k.pass c cs, rest_pass k c cs, ?_⟩
  unfold next
  rw [hk]
  rfl

theorem leads_skip (c : Char) (cs : List Char) : Leads skip (c :: cs) (pure ()) cs :=
  (leads_next c cs).bind

theorem leads_remaining (cs : List Char) : Leads remaining cs (pure cs.length) cs := by
  rintro k rfl
  exact ⟨k, rfl, rfl⟩

/-! ## Blanks -/

theorem rest_skipBlanksFrom (k : Cursor) (cs : List Char) :
    (skipBlanksFrom k cs).rest = cs.dropWhile isBlank := by
  induction cs generalizing k with
  | nil => rfl
  | cons c cs ih =>
    rw [skipBlanksFrom]
    split
    · rename_i hblank
      rw [ih, List.dropWhile_cons_of_pos hblank]
    · rename_i hblank
      rw [List.dropWhile_cons_of_neg hblank]

/-- Looking for a token passes over the blanks before it. -/
theorem leads_peekToken (cs : List Char) :
    Leads peekToken cs (pure (cs.dropWhile isBlank).head?) (cs.dropWhile isBlank) := by
  rintro k rfl
  refine ⟨skipBlanksFrom k k.rest, rest_skipBlanksFrom k k.rest, ?_⟩
  rw [← rest_skipBlanksFrom k]
  rfl

theorem leads_peekToken_cons (hc : isBlank c = false) (cs : List Char) :
    Leads peekToken (c :: cs) (pure (some c)) (c :: cs) := by
  have hdrop : (c :: cs).dropWhile isBlank = c :: cs :=
    List.dropWhile_cons_of_neg (by simp [hc])
  have h := leads_peekToken (c :: cs)
  rwa [hdrop] at h

/-- A character that no blank is in front of is seen and passed. -/
theorem leads_token {f : Option Char → Reader β} {r : Reader β} (hc : isBlank c = false)
    (hf : f (some c) = (do skip; r)) (cs : List Char) : Leads (peekToken >>= f) (c :: cs) r cs := by
  refine (leads_peekToken_cons hc cs).bind.trans ?_
  rw [hf]
  exact (leads_skip c cs).bind

theorem skipBlanksFrom_append {blanks cs : List Char} (h : Blanks blanks) {k : Cursor}
    (hk : k.rest = blanks ++ cs) :
    ∃ k' : Cursor, k'.rest = cs ∧ skipBlanksFrom k (blanks ++ cs) = skipBlanksFrom k' cs := by
  induction blanks generalizing k with
  | nil => exact ⟨k, hk, rfl⟩
  | cons c blanks ih =>
    obtain ⟨hc, hrest⟩ := List.forall_mem_cons.mp h
    obtain ⟨k', hk', hskip⟩ := ih hrest (rest_pass k c (blanks ++ cs))
    refine ⟨k', hk', ?_⟩
    rw [List.cons_append, skipBlanksFrom, if_pos hc, hskip]

/-- Blanks before a token do not matter. -/
theorem leads_peekToken_blanks {blanks : List Char} (h : Blanks blanks) (cs : List Char) :
    Leads peekToken (blanks ++ cs) peekToken cs := by
  intro k hk
  obtain ⟨k', hk', hskip⟩ := skipBlanksFrom_append h hk
  refine ⟨k', hk', ?_⟩
  unfold peekToken
  rw [hk, hk', hskip]

/-- A character behind blanks is seen. -/
theorem leads_peekToken_blanks_cons {blanks : List Char} (h : Blanks blanks)
    (hc : isBlank c = false) (cs : List Char) :
    Leads peekToken (blanks ++ c :: cs) (pure (some c)) (c :: cs) :=
  (leads_peekToken_blanks h _).trans (leads_peekToken_cons hc cs)

/-- A character behind blanks is seen and passed. -/
theorem leads_token_blanks {f : Option Char → Reader β} {r : Reader β} {blanks : List Char}
    (h : Blanks blanks) (hc : isBlank c = false) (hf : f (some c) = (do skip; r))
    (cs : List Char) : Leads (peekToken >>= f) (blanks ++ c :: cs) r cs :=
  (leads_peekToken_blanks h _).bind_left.trans (leads_token hc hf cs)

/-! ## Words -/

theorem leads_word (xs cs : List Char) : Leads (word xs) (xs ++ cs) (pure ()) cs := by
  induction xs with
  | nil => exact .refl _ _
  | cons x xs ih =>
    rw [word]
    refine (leads_peek _).bind.trans ?_
    dsimp only [List.cons_append, List.head?_cons]
    rw [if_pos rfl]
    exact (leads_skip x _).bind.trans ih

/-! ## Whole numbers -/

/-- No digit comes next. -/
def EndsDigits (cs : List Char) : Prop := ∀ c, cs.head? = some c → Text.isDigit c = false

/-- What follows a number and does not belong to it. -/
def EndsNumber (cs : List Char) : Prop :=
  ∀ c, cs.head? = some c → Text.isDigit c = false ∧ c ≠ '.' ∧ c ≠ 'e' ∧ c ≠ 'E'

theorem EndsNumber.endsDigits (h : EndsNumber cs) : EndsDigits cs := fun c hc => (h c hc).1

theorem endsNumber_nil : EndsNumber [] := fun _ h => nomatch h

theorem endsNumber_cons (hc : Text.isDigit c = false ∧ c ≠ '.' ∧ c ≠ 'e' ∧ c ≠ 'E') :
    EndsNumber (c :: cs) := by
  rintro d ⟨⟩
  exact hc

theorem endsNumber_of_blanks {blanks : List Char} (h : Blanks blanks) (hcs : EndsNumber cs) :
    EndsNumber (blanks ++ cs) := by
  cases blanks with
  | nil => exact hcs
  | cons b blanks =>
    refine endsNumber_cons ?_
    have hblank := h b List.mem_cons_self
    simp only [isBlank, Bool.or_eq_true, decide_eq_true_eq] at hblank
    rcases hblank with ((rfl | rfl) | rfl) | rfl
    all_goals decide

theorem leads_peekDigit_cons (hc : Text.isDigit c = true) (cs : List Char) :
    Leads peekDigit (c :: cs) (pure (some (c.toNat - 48))) (c :: cs) := by
  refine (leads_peek _).bind.trans ?_
  dsimp only [List.head?_cons]
  rw [hc]
  exact .refl _ _

theorem leads_peekDigit_end (h : EndsDigits cs) : Leads peekDigit cs (pure none) cs := by
  refine (leads_peek _).bind.trans ?_
  cases hhead : cs.head? with
  | none => exact .refl _ _
  | some c =>
    dsimp only
    rw [h c hhead]
    exact .refl _ _

theorem le_ofDigitChars (digits : List Char) (start : Nat) :
    start ≤ Nat.ofDigitChars 10 digits start := by
  induction digits generalizing start with
  | nil => exact Nat.le_of_eq Nat.ofDigitChars_nil.symm
  | cons c digits ih =>
    rw [Nat.ofDigitChars_cons]
    have := ih (10 * start + (c.toNat - '0'.toNat))
    omega

/-- Digits are gathered as long as the number they make fits. -/
theorem leads_wholeDigits (positive : Bool) {digits : List Char}
    (hdigits : ∀ c ∈ digits, Text.isDigit c = true) (hends : EndsDigits cs) {start fuel : Nat}
    (hfits : Nat.ofDigitChars 10 digits start < 2 ^ 64) (hfuel : digits.length ≤ fuel) :
    Leads (wholeDigits positive fuel start) (digits ++ cs)
      (afterWhole positive (Nat.ofDigitChars 10 digits start)) cs := by
  induction digits generalizing start fuel with
  | nil =>
    cases fuel with
    | zero =>
      rw [wholeDigits, Nat.ofDigitChars_nil]
      exact .refl _ _
    | succ fuel =>
      rw [wholeDigits, Nat.ofDigitChars_nil]
      exact (leads_peekDigit_end hends).bind
  | cons c digits ih =>
    obtain ⟨hc, hrest⟩ := List.forall_mem_cons.mp hdigits
    cases fuel with
    | zero => cases hfuel
    | succ fuel =>
      rw [Nat.ofDigitChars_cons, Nat.mul_comm 10 start] at hfits ⊢
      have hstep : start * 10 + (c.toNat - 48) < Nat.pow 2 64 :=
        Nat.lt_of_le_of_lt (le_ofDigitChars digits _) hfits
      rw [wholeDigits]
      refine (leads_peekDigit_cons hc _).bind.trans ?_
      dsimp only
      rw [if_pos hstep]
      exact (leads_skip c _).bind.trans (ih hrest hfits (Nat.le_of_succ_le_succ hfuel))

/-- The whole part of a number is gathered if it fits. -/
theorem leads_whole (positive : Bool) {whole : List Char} (h : IsWhole whole) (hends : EndsDigits cs)
    (hfits : Nat.ofDigitChars 10 whole 0 < 2 ^ 64) :
    Leads (number positive) (whole ++ cs) (afterWhole positive (Nat.ofDigitChars 10 whole 0)) cs := by
  cases h with
  | zero =>
    refine (leads_peek _).bind.trans ?_
    refine (leads_skip '0' _).bind.trans ?_
    exact (leads_peekDigit_end hends).bind
  | @digits d ds hd hzero hds =>
    refine (leads_peek _).bind.trans ?_
    split
    · rename_i heq
      cases heq
    · rename_i heq
      cases heq
      exact absurd rfl hzero
    · rename_i heq
      cases heq
      rw [if_pos hd]
      refine (leads_skip d _).bind.trans ?_
      refine (leads_remaining _).bind.trans ?_
      rw [Nat.ofDigitChars_cons, Nat.mul_zero, Nat.zero_add] at hfits ⊢
      exact leads_wholeDigits positive hds hends hfits (by simp)

/-- Digits are passed over. -/
theorem leads_skipDigits {digits : List Char} (hdigits : ∀ c ∈ digits, Text.isDigit c = true)
    (hends : EndsDigits cs) {fuel : Nat} (hfuel : digits.length ≤ fuel) (n : Nat) :
    Leads (skipDigits fuel n) (digits ++ cs) (pure (n + digits.length)) cs := by
  induction digits generalizing fuel n with
  | nil =>
    cases fuel with
    | zero => exact .refl _ _
    | succ fuel => exact (leads_peekDigit_end hends).bind
  | cons d digits ih =>
    obtain ⟨hd, hrest⟩ := List.forall_mem_cons.mp hdigits
    cases fuel with
    | zero => cases hfuel
    | succ fuel =>
      have hmore := ih hrest (Nat.le_of_succ_le_succ hfuel) (n + 1)
      rw [Nat.add_right_comm, Nat.add_assoc] at hmore
      refine (leads_peekDigit_cons hd _).bind.trans ?_
      exact (leads_skip d _).bind.trans hmore

theorem isExponentMark_head? (h : EndsNumber cs) : isExponentMark cs.head? = false := by
  unfold isExponentMark
  rw [Bool.or_eq_false_iff, beq_eq_false_iff_ne, beq_eq_false_iff_ne]
  exact ⟨fun hhead => (h _ hhead).2.2.1 rfl, fun hhead => (h _ hhead).2.2.2 rfl⟩

theorem leads_afterWhole {positive : Bool} {n : Nat} (hends : EndsNumber cs)
    (hfits : positive = false → 0 < n ∧ n ≤ 2 ^ 63) :
    Leads (afterWhole positive n) cs (pure (.int (if positive then n else -n))) cs := by
  refine (leads_peek _).bind.trans ?_
  have hpoint : (cs.head? == some '.') = false := by
    rw [beq_eq_false_iff_ne]
    exact fun h => (hends _ h).2.1 rfl
  rw [hpoint, isExponentMark_head? hends]
  cases positive with
  | true => exact .refl _ _
  | false =>
    have hrange : 0 < n ∧ n ≤ Nat.pow 2 63 := hfits rfl
    rw [if_pos hrange]
    exact .refl _ _

theorem isDigit_eq (c : Char) : Text.isDigit c = c.isDigit := by
  unfold Text.isDigit Char.isDigit
  rw [Bool.decide_and]
  rfl

/-- A number is written without zeros at its front. -/
theorem head?_toDigits {n : Nat} (hn : 0 < n) : (Nat.toDigits 10 n).head? ≠ some '0' := by
  induction n using Nat.strongRecOn with
  | ind n ih =>
    rw [Nat.toDigits_eq_if (by decide)]
    split
    · rename_i hlt
      have hdigits : ∀ m < 10, 0 < m → [Nat.digitChar m].head? ≠ some '0' := by decide
      exact hdigits n hlt hn
    · have hfront := ih (n / 10) (by omega) (by omega)
      obtain ⟨c, rest, hdigits⟩ :=
        List.exists_cons_of_ne_nil (Nat.toDigits_ne_nil (n := n / 10) (b := 10))
      rw [hdigits] at hfront ⊢
      exact hfront

theorem isDigit_of_mem_toDigits {n : Nat} (hc : c ∈ Nat.toDigits 10 n) : Text.isDigit c = true := by
  rw [isDigit_eq]
  exact Nat.isDigit_of_mem_toDigits (by decide) (by decide) hc

/-- The digits of a positive number, or the first of them, with more digits
behind them. -/
theorem isWhole_of_prefix {n : Nat} (hn : 0 < n) {ds : List Char} (hne : ds ≠ [])
    (hds : ds <+: Nat.toDigits 10 n) {more : List Char}
    (hmore : ∀ c ∈ more, Text.isDigit c = true) : IsWhole (ds ++ more) := by
  obtain ⟨rest, hrest⟩ := hds
  have hfront := head?_toDigits hn
  have hall : ∀ c ∈ ds, Text.isDigit c = true := fun c hc =>
    isDigit_of_mem_toDigits (n := n) (hrest ▸ List.mem_append_left rest hc)
  obtain ⟨d, ds, rfl⟩ := List.exists_cons_of_ne_nil hne
  obtain ⟨hd, hds⟩ := List.forall_mem_cons.mp hall
  rw [← hrest] at hfront
  refine .digits hd (fun hzero => hfront (congrArg some hzero)) fun c hc => ?_
  rcases List.mem_append.mp hc with hc | hc
  · exact hds c hc
  · exact hmore c hc

theorem isWhole_toDigits (n : Nat) : IsWhole (Nat.toDigits 10 n) := by
  rcases Nat.eq_zero_or_pos n with rfl | hn
  · exact .zero
  · have h := isWhole_of_prefix hn Nat.toDigits_ne_nil (List.prefix_refl _) (List.forall_mem_nil _)
    rwa [List.append_nil] at h

/-- A whole number is read back. -/
theorem leads_number (positive : Bool) {n : Nat} (hends : EndsNumber cs) (hn : n < 2 ^ 64)
    (hfits : positive = false → 0 < n ∧ n ≤ 2 ^ 63) :
    Leads (number positive) (Nat.toDigits 10 n ++ cs)
      (pure (.int (if positive then n else -n))) cs := by
  have hvalue := Nat.ofDigitChars_ten_toDigits (n := n)
  have hwhole := leads_whole positive (isWhole_toDigits n) hends.endsDigits (hvalue.symm ▸ hn)
  rw [hvalue] at hwhole
  exact hwhole.trans (leads_afterWhole hends hfits)

/-! ## Strings -/

theorem utf8Size_of_isHexDigit (h : Text.isHexDigit c = true) : c.utf8Size = 1 := by
  have hle : c.toNat ≤ 'f'.toNat := by
    simp only [Text.isHexDigit, Text.isDigit, Char.le_def, UInt32.le_iff_toNat_le,
      decide_eq_true_eq] at h
    change c.val.toNat ≤ 102
    have h9 : '9'.val.toNat = 57 := rfl
    have hf : 'f'.val.toNat = 102 := rfl
    have hF : 'F'.val.toNat = 70 := rfl
    omega
  rw [Char.utf8Size_eq_one_iff]
  exact UInt32.le_iff_toNat_le.mpr (Nat.le_trans hle (by decide))

theorem leads_hex4 {n : Nat} {ds : List Char} (h : HexCode n ds) (cs : List Char) :
    Leads hex4 (ds ++ cs) (pure n) cs := by
  cases h with
  | intro ha hb hx hy =>
    intro k hk
    refine ⟨{ k with rest := cs, column := k.column + 4 }, rfl, ?_⟩
    unfold hex4
    rw [hk]
    dsimp only [List.cons_append, List.nil_append]
    rw [utf8Size_of_isHexDigit ha, utf8Size_of_isHexDigit hb, utf8Size_of_isHexDigit hx,
      utf8Size_of_isHexDigit hy, if_pos rfl, ha, hb, hx, hy]
    rfl

theorem leads_demand (p : Problem) (cs : List Char) :
    Leads (demand c p) (c :: cs) (pure ()) cs := by
  refine (leads_peek _).bind.trans ?_
  dsimp only [List.head?_cons]
  rw [if_pos rfl]
  exact leads_skip c cs

/-- The code of a character is read as the character: no character has the code
of a half. -/
theorem leads_unicodeEscape_code {ds : List Char} (h : HexCode c.toNat ds) (cs : List Char) :
    Leads unicodeEscape (ds ++ cs) (pure c) cs := by
  have hvalid : c.toNat < 0xD800 ∨ 0xDFFF < c.toNat ∧ c.toNat < 0x110000 := c.valid
  refine (leads_hex4 h cs).bind.trans ?_
  rw [if_neg (by omega), if_neg (by omega), Char.ofNat_toNat]
  exact .refl _ _

theorem leads_unicodeEscape_halves {high low : Nat} {ds ds' : List Char} (hhigh : high < 0x400)
    (hlow : low < 0x400) (hc : c.toNat = high * 0x400 + low + 0x10000)
    (hds : HexCode (0xD800 + high) ds) (hds' : HexCode (0xDC00 + low) ds') (cs : List Char) :
    Leads unicodeEscape (ds ++ '\\' :: 'u' :: (ds' ++ cs)) (pure c) cs := by
  refine (leads_hex4 hds _).bind.trans ?_
  rw [if_neg (by omega), if_pos (by omega)]
  refine (leads_demand _ _).bind.trans ?_
  refine (leads_demand _ _).bind.trans ?_
  refine (leads_hex4 hds' cs).bind.trans ?_
  rw [if_pos (by omega), Nat.add_sub_cancel_left, Nat.add_sub_cancel_left, ← hc, Char.ofNat_toNat]
  exact .refl _ _

theorem leads_stringRest_code {fuel : Nat} {acc : List Char}
    (h : Leads unicodeEscape cs (pure c) cs') :
    Leads (stringRest (fuel + 1) acc) ('\\' :: 'u' :: cs) (stringRest fuel (c :: acc)) cs' := by
  refine (leads_next '\\' _).bind.trans ?_
  refine (leads_peek _).bind.trans ?_
  refine (leads_skip 'u' _).bind.trans ?_
  exact h.bind

/-- A character is read back, however it is written. -/
theorem leads_stringRest_spells {piece : List Char} (h : Spells c piece) (fuel : Nat)
    (acc cs : List Char) :
    Leads (stringRest (fuel + 1) acc) (piece ++ cs) (stringRest fuel (c :: acc)) cs := by
  cases h with
  | plain hcontrol hquote hbackslash =>
    refine (leads_next c _).bind.trans ?_
    split
    · rename_i heq
      cases heq
    · rename_i heq
      cases heq
      exact absurd rfl hquote
    · rename_i heq
      cases heq
      exact absurd rfl hbackslash
    · rename_i heq
      cases heq
      rw [if_neg (by omega)]
      exact .refl _ _
  | @letter l hl =>
    refine (leads_next '\\' _).bind.trans ?_
    refine (leads_peek _).bind.trans ?_
    split
    · rename_i heq
      cases heq
    · rename_i heq
      cases heq
      cases hl
    · rename_i heq
      cases heq
      rw [hl]
      exact (leads_skip l _).bind
  | code hds => exact leads_stringRest_code (leads_unicodeEscape_code hds cs)
  | @halves high low ds ds' hhigh hlow hc hds hds' =>
    have hread := leads_unicodeEscape_halves hhigh hlow hc hds hds' cs
    rw [List.cons_append, List.cons_append, List.append_assoc]
    exact leads_stringRest_code hread

theorem leads_stringRest {xs text : List Char} (h : Spelled xs text) {fuel : Nat}
    (hfuel : xs.length < fuel) (acc cs : List Char) :
    Leads (stringRest fuel acc) (text ++ '"' :: cs) (pure (String.ofList (acc.reverse ++ xs)))
      cs := by
  induction h generalizing acc fuel with
  | nil =>
    cases fuel with
    | zero => cases hfuel
    | succ fuel =>
      rw [stringRest, List.append_nil]
      exact (leads_next '"' cs).bind
  | @cons x xs piece text hx hxs ih =>
    cases fuel with
    | zero => cases hfuel
    | succ fuel =>
      rw [List.append_assoc]
      refine (leads_stringRest_spells hx fuel acc _).trans ?_
      have hrest := ih (Nat.lt_of_succ_lt_succ hfuel) (x :: acc)
      rwa [List.reverse_cons, List.append_assoc] at hrest

end Reader

theorem Spelled.length_le {xs text : List Char} (h : Spelled xs text) :
    xs.length ≤ text.length := by
  induction h with
  | nil => exact Nat.le_refl _
  | @cons x xs piece text hx hxs ih =>
    have hpiece : 1 ≤ piece.length := by
      cases hx
      all_goals exact Nat.le_add_left _ _
    rw [List.length_cons, List.length_append]
    omega

/-- A control character has a code of four digits. -/
theorem hexCode_of_control (hc : c.toNat < 32) :
    HexCode c.toNat ['0', '0', hexDigit (c.toNat / 16), hexDigit (c.toNat % 16)] := by
  have hdigit : ∀ n < 16, Text.isHexDigit (hexDigit n) = true ∧ Text.hexValue (hexDigit n) = n := by
    decide
  obtain ⟨hhigh, hhighValue⟩ := hdigit (c.toNat / 16) (by omega)
  obtain ⟨hlow, hlowValue⟩ := hdigit (c.toNat % 16) (by omega)
  have hcode : HexCode _ _ :=
    .intro (a := '0') (b := '0') (by decide) (by decide) hhigh hlow
  have hzero : Text.hexValue '0' = 0 := by decide
  rw [hhighValue, hlowValue, hzero] at hcode
  rwa [show ((0 * 16 + 0) * 16 + c.toNat / 16) * 16 + c.toNat % 16 = c.toNat by omega] at hcode

theorem spells_escapeChar (c : Char) : Spells c (escapeChar c) := by
  have hletter : ∀ {l x : Char}, c = x → Reader.simpleEscape l = some x → Spells c ['\\', l] := by
    rintro l x rfl hl
    exact .letter hl
  unfold escapeChar
  split
  · exact hletter ‹_› rfl
  split
  · exact hletter ‹_› rfl
  split
  · exact hletter ‹_› rfl
  split
  · exact hletter ‹_› rfl
  split
  · exact hletter ‹_› rfl
  split
  · exact hletter ‹_› rfl
  split
  · exact hletter ‹_› rfl
  split
  · -- a control character without a letter
    exact .code (hexCode_of_control ‹_›)
  · exact .plain (Nat.le_of_not_lt ‹_›) ‹_› ‹_›

theorem spelled_escaped (xs : List Char) : Spelled xs (xs.flatMap escapeChar) := by
  induction xs with
  | nil => exact .nil
  | cons x xs ih =>
    rw [List.flatMap_cons]
    exact .cons (spells_escapeChar x) ih

namespace Reader

/-- A string is read back, however it is written, its opening quote taken. -/
theorem leads_string_of_spelled {s : String} {text : List Char} (h : Spelled s.toList text)
    (cs : List Char) : Leads string (text ++ '"' :: cs) (pure s) cs := by
  refine (leads_remaining _).bind.trans ?_
  have hlength := h.length_le
  have hfuel : s.toList.length < (text ++ '"' :: cs).length + 1 := by
    rw [List.length_append]
    omega
  have hread := leads_stringRest h hfuel [] cs
  rwa [List.reverse_nil, List.nil_append, String.ofList_toList] at hread

/-- A string is read back with the escapes that writing gives it. -/
theorem leads_string (s : String) (cs : List Char) :
    Leads string (s.toList.flatMap escapeChar ++ '"' :: cs) (pure s) cs :=
  leads_string_of_spelled (spelled_escaped s.toList) cs

end Reader

end

end Playpen.Json
