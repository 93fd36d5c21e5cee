import Playpen.Proofs.Json.Assembly
import Playpen.Proofs.Json.Reading
import Playpen.Proofs.Json.Soundness
import Playpen.Proofs.Text.Pieces

/-!
# Doubles are read back as doubles

The text of a finite double has a point or an exponent, and its digits are the
shortest ones.  A reader gathers as many digits as fit into 64 bits (`gathered`)
and puts them together, so the double it comes to may be another one; but it
comes to one, whatever the layout (`exists_documentText`).

Only a text with a positive exponent could be too large.  Places lower the
exponent that the digits are put together with, and a negative exponent that is
too large stands for zero.
-/

namespace Playpen.Json

open Decimal (Digits Scaled Binary natText zeros exponentText shortest)

namespace Reader

variable {α : Type} {c : Char} {cs cs' text text' : List Char} {positive : Bool}

/-! ## Places -/

/-- The significand once digits have been added to it as long as it fits, and how many there are
behind the point then. -/
def gathered : List Char → Nat → Nat → Nat × Nat
  | [], s, n => (s, n)
  | c :: cs, s, n =>
    if s * 10 + (c.toNat - 48) < 2 ^ 64 then gathered cs (s * 10 + (c.toNat - 48)) (n + 1) else (s, n)

theorem mul_pow_le_ofDigitChars (digits : List Char) (s : Nat) :
    s * 10 ^ digits.length ≤ Nat.ofDigitChars 10 digits s := by
  rw [Nat.ofDigitChars_eq_ofDigitChars_zero, Nat.mul_comm]
  exact Nat.le_add_right _ _

/-- The significand has the first digits, and all of them if they fit. -/
theorem exists_gathered (digits : List Char) {s : Nat} (n : Nat) (hs : s < 2 ^ 64) :
    (gathered digits s n).1 < 2 ^ 64 ∧ ∃ j, (gathered digits s n).2 + j = n + digits.length ∧
      (gathered digits s n).1 * 10 ^ j ≤ Nat.ofDigitChars 10 digits s ∧
      (Nat.ofDigitChars 10 digits s < 2 ^ 64 →
        (gathered digits s n).1 = Nat.ofDigitChars 10 digits s ∧ j = 0) := by
  induction digits generalizing s n with
  | nil =>
    rw [gathered, Nat.ofDigitChars_nil]
    exact ⟨hs, 0, rfl, by simp, fun _ => ⟨rfl, rfl⟩⟩
  | cons c digits ih =>
    rw [gathered]
    have hcons : Nat.ofDigitChars 10 (c :: digits) s =
        Nat.ofDigitChars 10 digits (s * 10 + (c.toNat - 48)) := by
      rw [Nat.ofDigitChars_cons, Nat.mul_comm]
      rfl
    split
    · rename_i hfits
      obtain ⟨hlt, j, hj, hle, hwhole⟩ := ih (n + 1) hfits
      rw [hcons]
      exact ⟨hlt, j, by rw [hj, List.length_cons]; omega, hle, hwhole⟩
    · rename_i hover
      refine ⟨hs, (c :: digits).length, rfl, mul_pow_le_ofDigitChars _ s, fun hlt => ?_⟩
      rw [hcons] at hlt
      exact absurd (Nat.lt_of_le_of_lt (le_ofDigitChars digits _) hlt) hover

theorem leads_discard {r : Reader α} {a : α} (h : Leads r cs (pure a) cs') :
    Leads (discard r) cs (pure ()) cs' := h.bind

theorem leads_places (start : Int) {digits : List Char}
    (hdigits : ∀ c ∈ digits, Text.isDigit c = true) (hends : EndsDigits cs) {fuel s n : Nat}
    (hfuel : digits.length ≤ fuel) (hcount : 0 < n + digits.length) :
    Leads (places positive start fuel s n) (digits ++ cs)
      (afterPlaces positive (gathered digits s n).1 (start - (gathered digits s n).2)) cs := by
  induction digits generalizing fuel s n with
  | nil =>
    cases fuel with
    | zero => exact .refl _ _
    | succ fuel =>
      refine (leads_peekDigit_end hends).bind.trans ?_
      dsimp only
      rw [if_neg (show n ≠ 0 from Nat.ne_of_gt hcount)]
      exact .refl _ _
  | cons c digits ih =>
    obtain ⟨hc, hrest⟩ := List.forall_mem_cons.mp hdigits
    cases fuel with
    | zero => cases hfuel
    | succ fuel =>
      rw [gathered]
      refine (leads_peekDigit_cons hc _).bind.trans ?_
      by_cases hfits : s * 10 + (c.toNat - 48) < 2 ^ 64
      · rw [if_pos hfits]
        dsimp only
        rw [if_pos (show s * 10 + (c.toNat - 48) < Nat.pow 2 64 from hfits)]
        exact (leads_skip c _).bind.trans (ih hrest (Nat.le_of_succ_le_succ hfuel) (by omega))
      · rw [if_neg hfits]
        dsimp only
        rw [if_neg (show ¬s * 10 + (c.toNat - 48) < Nat.pow 2 64 from hfits)]
        exact (leads_discard (leads_skipDigits hdigits hends hfuel 0)).bind

/-! ## Exponents -/

theorem leads_exponentDigits {digits : List Char} (hdigits : ∀ c ∈ digits, Text.isDigit c = true)
    (hends : EndsDigits cs) {fuel e : Nat} (hfuel : digits.length ≤ fuel)
    (hlimit : Nat.ofDigitChars 10 digits e ≤ exponentLimit) :
    Leads (exponentDigits fuel e) (digits ++ cs) (pure (some (Nat.ofDigitChars 10 digits e))) cs := by
  induction digits generalizing fuel e with
  | nil =>
    cases fuel with
    | zero => exact .refl _ _
    | succ fuel => exact (leads_peekDigit_end hends).bind
  | cons c digits ih =>
    obtain ⟨hc, hrest⟩ := List.forall_mem_cons.mp hdigits
    cases fuel with
    | zero => cases hfuel
    | succ fuel =>
      rw [Nat.ofDigitChars_cons, Nat.mul_comm 10 e] at hlimit ⊢
      have hstep : ¬exponentLimit < e * 10 + (c.toNat - 48) :=
        Nat.not_lt.mpr ((le_ofDigitChars digits _).trans hlimit)
      refine (leads_peekDigit_cons hc _).bind.trans ?_
      dsimp only
      refine (leads_skip c _).bind.trans ?_
      rw [if_neg hstep]
      exact ih hrest (Nat.le_of_succ_le_succ hfuel) hlimit

/-- An exponent that is too large is given up. -/
theorem leads_exponentDigits_over {digits : List Char}
    (hdigits : ∀ c ∈ digits, Text.isDigit c = true) {fuel e : Nat} (hfuel : digits.length ≤ fuel)
    (he : e ≤ exponentLimit)
    (hlimit : exponentLimit < Nat.ofDigitChars 10 digits e) :
    ∃ rest, (∀ c ∈ rest, Text.isDigit c = true) ∧ ∀ cs,
      Leads (exponentDigits fuel e) (digits ++ cs) (pure none) (rest ++ cs) := by
  induction digits generalizing fuel e with
  | nil =>
    rw [Nat.ofDigitChars_nil] at hlimit
    exact absurd he (Nat.not_le.mpr hlimit)
  | cons c digits ih =>
    obtain ⟨hc, hrest⟩ := List.forall_mem_cons.mp hdigits
    cases fuel with
    | zero => cases hfuel
    | succ fuel =>
      rw [Nat.ofDigitChars_cons, Nat.mul_comm 10 e] at hlimit
      by_cases hstep : exponentLimit < e * 10 + (c.toNat - 48)
      · refine ⟨digits, hrest, fun cs => (leads_peekDigit_cons hc _).bind.trans ?_⟩
        dsimp only
        refine (leads_skip c _).bind.trans ?_
        rw [if_pos hstep]
        exact .refl _ _
      · obtain ⟨rest, hdigits', hread⟩ :=
          ih hrest (Nat.le_of_succ_le_succ hfuel) (Nat.not_lt.mp hstep) hlimit
        refine ⟨rest, hdigits', fun cs => (leads_peekDigit_cons hc _).bind.trans ?_⟩
        dsimp only
        refine (leads_skip c _).bind.trans ?_
        rw [if_neg hstep]
        exact hread cs

/-! ## Doubles -/

/-- The reader makes some double of the text. -/
def GivesDouble (r : Reader Number) (text : List Char) : Prop :=
  ∃ y, ∀ cs, EndsNumber cs → Leads r (text ++ cs) (pure (.double y)) cs

section

variable {r r' : Reader Number} {s : Nat} {e start : Int} {ds : List Char}

theorem GivesDouble.of_leads (h : GivesDouble r' text')
    (hleads : ∀ cs, EndsNumber cs → Leads r (text ++ cs) r' (text' ++ cs)) : GivesDouble r text := by
  obtain ⟨y, hy⟩ := h
  exact ⟨y, fun cs hcs => (hleads cs hcs).trans (hy cs hcs)⟩

theorem givesDouble_double (h : (assemble s e).isSome = true) :
    GivesDouble (double positive s e) [] := by
  obtain ⟨y, hy⟩ := Option.isSome_iff_exists.mp h
  refine ⟨sign positive y, fun cs _ => ?_⟩
  unfold double
  rw [hy]
  exact .refl _ _

theorem clampExponent_of_nonneg (h : 0 ≤ clampExponent e) (hlimit : e ≤ exponentLimit) :
    clampExponent e = e := by
  unfold exponentLimit at hlimit
  unfold clampExponent at h ⊢
  omega

theorem isSome_assemble_clampExponent (hs : s < 2 ^ 64) (hlimit : e ≤ exponentLimit)
    (h : (assemble s e).isSome = true) : (assemble s (clampExponent e)).isSome = true := by
  by_cases hnonneg : 0 ≤ clampExponent e
  · rwa [clampExponent_of_nonneg hnonneg hlimit]
  · exact isSome_assemble hs fun hexp => absurd hexp hnonneg

theorem isSome_assemble_of_nonpos (hs : s < 2 ^ 64) (he : e ≤ 0) : (assemble s e).isSome = true := by
  refine isSome_assemble hs fun hexp => ?_
  have hzero : e.toNat = 0 := by omega
  have hceiling : 2 ^ 64 ≤ ceiling := by decide +kernel
  rw [hzero, Nat.pow_zero, Nat.mul_one]
  exact (Nat.le_of_lt hs).trans hceiling

section

variable (hds : Digits Text.isDigit ds)

include hds

theorem leads_exponentValue_of_le {positiveExponent : Bool} (hends : EndsDigits cs)
    (hlimit : Nat.ofDigitChars 10 ds 0 ≤ exponentLimit) :
    Leads (exponentValue positive s start positiveExponent) (ds ++ cs)
      (double positive s (clampExponent (if positiveExponent then start + Nat.ofDigitChars 10 ds 0
        else start - Nat.ofDigitChars 10 ds 0))) cs := by
  obtain ⟨d, rest, rfl⟩ := List.exists_cons_of_ne_nil hds.1
  obtain ⟨hd, hrest⟩ := List.forall_mem_cons.mp hds.2
  rw [Nat.ofDigitChars_cons, Nat.mul_zero, Nat.zero_add] at hlimit ⊢
  refine (leads_peek _).bind.trans ?_
  dsimp only [List.cons_append, List.head?_cons]
  rw [if_pos hd]
  refine (leads_skip d _).bind.trans ?_
  refine (leads_remaining _).bind.trans ?_
  exact (leads_exponentDigits hrest hends (by simp) hlimit).bind

/-- A negative exponent that is too large is passed over, and gives zero. -/
theorem leads_exponentValue_over (hends : EndsDigits cs)
    (hlimit : exponentLimit < Nat.ofDigitChars 10 ds 0) :
    Leads (exponentValue positive s start false) (ds ++ cs)
      (pure (.double (sign positive 0.0))) cs := by
  obtain ⟨d, rest, rfl⟩ := List.exists_cons_of_ne_nil hds.1
  obtain ⟨hd, hrest⟩ := List.forall_mem_cons.mp hds.2
  rw [Nat.ofDigitChars_cons, Nat.mul_zero, Nat.zero_add] at hlimit
  have hsmall : d.toNat - '0'.toNat ≤ exponentLimit := by
    have : d.toNat < 0xD800 ∨ 0xDFFF < d.toNat ∧ d.toNat < 0x110000 := d.valid
    unfold exponentLimit
    omega
  obtain ⟨more, hmore, hread⟩ := leads_exponentDigits_over hrest
    (show rest.length ≤ (rest ++ cs).length by simp) hsmall hlimit
  refine (leads_peek _).bind.trans ?_
  dsimp only [List.cons_append, List.head?_cons]
  rw [if_pos hd]
  refine (leads_skip d _).bind.trans ?_
  refine (leads_remaining _).bind.trans ?_
  refine (hread cs).bind.trans ?_
  dsimp only
  rw [if_neg (by simp)]
  refine (leads_remaining _).bind.trans ?_
  exact (leads_discard (leads_skipDigits hmore hends (by simp) 0)).bind

theorem givesDouble_exponentPart_negative (hs : s < 2 ^ 64) (hstart : start ≤ 0) :
    GivesDouble (exponentPart positive s start) ('e' :: '-' :: ds) := by
  have hpart : ∀ cs, Leads (exponentPart positive s start) ('e' :: '-' :: ds ++ cs)
      (exponentValue positive s start false) (ds ++ cs) := by
    intro cs
    refine (leads_skip 'e' _).bind.trans ?_
    refine (leads_peek _).bind.trans ?_
    exact (leads_skip '-' _).bind
  by_cases hlimit : Nat.ofDigitChars 10 ds 0 ≤ exponentLimit
  · have hsome := isSome_assemble_of_nonpos hs (e := start - Nat.ofDigitChars 10 ds 0) (by omega)
    have hdouble : GivesDouble (double positive s _) [] :=
      givesDouble_double (isSome_assemble_clampExponent hs (by omega) hsome)
    exact hdouble.of_leads fun cs hcs =>
      (hpart cs).trans (leads_exponentValue_of_le hds hcs.endsDigits hlimit)
  · exact ⟨sign positive 0.0, fun cs hcs =>
      (hpart cs).trans (leads_exponentValue_over hds hcs.endsDigits (Nat.lt_of_not_le hlimit))⟩

theorem givesDouble_exponentPart_positive (hs : s < 2 ^ 64) (hstart : start ≤ 0)
    (hlimit : Nat.ofDigitChars 10 ds 0 ≤ exponentLimit)
    (hsome : (assemble s (start + Nat.ofDigitChars 10 ds 0)).isSome = true) :
    GivesDouble (exponentPart positive s start) ('e' :: '+' :: ds) := by
  have hdouble : GivesDouble (double positive s _) [] :=
    givesDouble_double (isSome_assemble_clampExponent hs (by omega) hsome)
  refine hdouble.of_leads fun cs hcs => ?_
  refine (leads_skip 'e' _).bind.trans ?_
  refine (leads_peek _).bind.trans ?_
  exact (leads_skip '+' _).bind.trans (leads_exponentValue_of_le hds hcs.endsDigits hlimit)

end

/-! ## Numbers with a point or an exponent -/

theorem givesDouble_afterPlaces (h : (assemble s e).isSome = true) :
    GivesDouble (afterPlaces positive s e) [] := by
  have hdouble : GivesDouble (double positive s e) [] := givesDouble_double h
  refine hdouble.of_leads fun cs hcs => ?_
  refine (leads_peek _).bind.trans ?_
  rw [List.nil_append, isExponentMark_head? hcs]
  exact .refl _ _

theorem GivesDouble.afterPlaces (h : GivesDouble (exponentPart positive s e) ('e' :: text)) :
    GivesDouble (afterPlaces positive s e) ('e' :: text) :=
  h.of_leads fun _ _ => (leads_peek _).bind

/-- Behind a whole part stands an exponent. -/
theorem GivesDouble.number_exponent {whole : List Char} (hwhole : IsWhole whole)
    (hfits : Nat.ofDigitChars 10 whole 0 < 2 ^ 64)
    (h : GivesDouble (exponentPart positive (Nat.ofDigitChars 10 whole 0) 0) ('e' :: text)) :
    GivesDouble (number positive) (whole ++ 'e' :: text) := by
  refine h.of_leads fun cs hcs => ?_
  have hends : EndsDigits ('e' :: text ++ cs) := by
    rintro c ⟨⟩
    rfl
  rw [List.append_assoc]
  refine (leads_whole positive hwhole hends hfits).trans ?_
  exact (leads_peek _).bind

/-- Behind a whole part stand a point and places. -/
theorem GivesDouble.number_places {whole : List Char} (hwhole : IsWhole whole)
    (hfits : Nat.ofDigitChars 10 whole 0 < 2 ^ 64) (hds : Digits Text.isDigit ds)
    (htext : ∀ cs, EndsNumber cs → EndsDigits (text ++ cs))
    (h : GivesDouble (Reader.afterPlaces positive (gathered ds (Nat.ofDigitChars 10 whole 0) 0).1
      (0 - (gathered ds (Nat.ofDigitChars 10 whole 0) 0).2)) text) :
    GivesDouble (number positive) (whole ++ '.' :: (ds ++ text)) := by
  refine h.of_leads fun cs hcs => ?_
  have hends : EndsDigits ('.' :: (ds ++ (text ++ cs))) := by
    rintro c ⟨⟩
    rfl
  have happend : whole ++ '.' :: (ds ++ text) ++ cs = whole ++ '.' :: (ds ++ (text ++ cs)) := by simp
  rw [happend]
  refine (leads_whole positive hwhole hends hfits).trans ?_
  refine (leads_peek _).bind.trans ?_
  refine (leads_skip '.' _).bind.trans ?_
  refine (leads_remaining _).bind.trans ?_
  have hlength : 0 < 0 + ds.length := by
    rw [Nat.zero_add]
    exact List.length_pos_iff.mpr hds.1
  exact leads_places 0 hds.2 (htext cs hcs) (by simp) hlength

/-- A number with places and no exponent is in range. -/
theorem givesDouble_number_places {whole : List Char} (hwhole : IsWhole whole)
    (hfits : Nat.ofDigitChars 10 whole 0 < 2 ^ 64) (hds : Digits Text.isDigit ds) :
    GivesDouble (number positive) (whole ++ '.' :: ds) := by
  obtain ⟨hlt, -⟩ := exists_gathered ds 0 hfits
  have hsome := isSome_assemble_of_nonpos hlt
    (e := 0 - (gathered ds (Nat.ofDigitChars 10 whole 0) 0).2) (by omega)
  have hplaces : GivesDouble (Reader.afterPlaces positive _ _) [] := givesDouble_afterPlaces hsome
  have hends : ∀ cs, EndsNumber cs → EndsDigits ([] ++ cs) := fun _ hcs => hcs.endsDigits
  have h := hplaces.number_places hwhole hfits hds hends
  rwa [List.append_nil] at h

end

/-! ## Rows of digits -/

theorem digits_toDigits (n : Nat) : Digits Text.isDigit (Nat.toDigits 10 n) :=
  ⟨Nat.toDigits_ne_nil, fun _ => isDigit_of_mem_toDigits⟩

theorem digit_lt (hc : Text.isDigit c = true) : c.toNat - 48 < 10 := by
  rw [Text.isDigit, decide_eq_true_eq, Char.le_def, Char.le_def, UInt32.le_iff_toNat_le,
    UInt32.le_iff_toNat_le] at hc
  change c.val.toNat - 48 < 10
  have h9 : '9'.val.toNat = 57 := rfl
  omega

theorem ofDigitChars_lt {digits : List Char} (h : ∀ c ∈ digits, Text.isDigit c = true) (s : Nat) :
    Nat.ofDigitChars 10 digits s < (s + 1) * 10 ^ digits.length := by
  induction digits generalizing s with
  | nil =>
    rw [Nat.ofDigitChars_nil]
    simp
  | cons c digits ih =>
    obtain ⟨hc, hrest⟩ := List.forall_mem_cons.mp h
    have hdigit : c.toNat - '0'.toNat < 10 := digit_lt hc
    rw [Nat.ofDigitChars_cons]
    calc Nat.ofDigitChars 10 digits (10 * s + (c.toNat - '0'.toNat))
        < (10 * s + (c.toNat - '0'.toNat) + 1) * 10 ^ digits.length := ih hrest _
      _ ≤ (10 * s + 10) * 10 ^ digits.length := Nat.mul_le_mul_right _ (by omega)
      _ = (s + 1) * 10 ^ (c :: digits).length := by rw [List.length_cons]; ring

/-- Sixteen digits fit. -/
theorem ofDigitChars_fits {digits : List Char} (h : ∀ c ∈ digits, Text.isDigit c = true)
    (hlength : digits.length ≤ 16) : Nat.ofDigitChars 10 digits 0 < 2 ^ 64 := by
  refine (ofDigitChars_lt h 0).trans_le ?_
  calc (0 + 1) * 10 ^ digits.length ≤ (0 + 1) * 10 ^ 16 :=
        Nat.mul_le_mul_left _ (Nat.pow_le_pow_right (by decide) hlength)
    _ ≤ 2 ^ 64 := by decide

theorem isWhole_singleton (hc : Text.isDigit c = true) : IsWhole [c] := by
  by_cases hzero : c = '0'
  · rw [hzero]
    exact .zero
  · exact .digits hc hzero fun _ h => nomatch h

/-! ## The layouts of a double -/

/-- What is asked of digits that are to be read back: they are in range, also
when only the first of them are gathered. -/
structure Readable (d : Scaled) : Prop where
  zero : d.digits = 0 → d.exponent = 0
  size {j : Nat} : 10 ^ j ≤ d.digits → d.exponent + j ≤ 308
  assembles {s j : Nat} : s < 2 ^ 64 → s * 10 ^ j ≤ d.digits →
    (d.digits < 2 ^ 64 → s = d.digits ∧ j = 0) → (assemble s (d.exponent + j)).isSome = true

theorem readable_shortest {b : Binary} (hm : b.m < 2 ^ 53) (hq : b.q ≤ 971) :
    Readable (shortest b) where
  zero h := by rw [Decimal.shortest_eq_zero h]
  size := exponent_shortest_le hm hq
  assembles := isSome_assemble_shortest hm hq

theorem toList_exponentText (e : Int) : (exponentText e).toList =
    'e' :: (if e < 0 then '-' else '+') :: Nat.toDigits 10 e.natAbs := by
  unfold exponentText natText
  split
  · rw [String.toList_append, String.toList_ofList]
    rw [String.toList_ofList]
    rfl
  · rw [String.toList_append, String.toList_ofList]
    rw [String.toList_ofList]
    rfl

theorem toList_zeros (n : Nat) : (zeros n).toList = List.replicate n '0' := Text.toList_pushn _ _

theorem isDigit_replicate (n : Nat) : ∀ c ∈ List.replicate n '0', Text.isDigit c = true := by
  intro c hc
  rw [List.eq_of_mem_replicate hc]
  rfl

section

variable {d : Scaled}

theorem digits_of_toDigits {n : Nat} {rest : List Char} (h : Nat.toDigits 10 n = c :: rest) :
    Text.isDigit c = true ∧ (∀ x ∈ rest, Text.isDigit x = true) ∧
      Nat.ofDigitChars 10 rest (c.toNat - 48) = n := by
  have hall : ∀ x ∈ c :: rest, Text.isDigit x = true := fun x hx =>
    isDigit_of_mem_toDigits (n := n) (h ▸ hx)
  obtain ⟨hc, hrest⟩ := List.forall_mem_cons.mp hall
  have hvalue := Nat.ofDigitChars_ten_toDigits (n := n)
  rw [h, Nat.ofDigitChars_cons, Nat.mul_zero, Nat.zero_add] at hvalue
  exact ⟨hc, hrest, hvalue⟩

theorem ten_pow_le_of_toDigits {n : Nat} (hn : 0 < n) {rest : List Char}
    (h : Nat.toDigits 10 n = c :: rest) : 10 ^ rest.length ≤ n := by
  rcases Nat.eq_zero_or_pos rest.length with hzero | hpos
  · rwa [hzero, Nat.pow_zero]
  · refine Nat.le_of_not_lt fun hlt => ?_
    have hshort := (Nat.length_toDigits_le_iff (b := 10) (by decide) hpos).mpr hlt
    rw [h, List.length_cons] at hshort
    omega

/-- An exponent is in range if it is negative, or not too large. -/
theorem givesDouble_exponentText {s : Nat} {start e : Int} (hs : s < 2 ^ 64) (hstart : start ≤ 0)
    (h : 0 ≤ e → e ≤ 308 ∧ (assemble s (start + e)).isSome = true) :
    GivesDouble (exponentPart positive s start) (exponentText e).toList := by
  have hdigits := digits_toDigits e.natAbs
  have hvalue := Nat.ofDigitChars_ten_toDigits (n := e.natAbs)
  rw [toList_exponentText]
  split
  · exact givesDouble_exponentPart_negative hdigits hs hstart
  · rename_i hnonneg
    obtain ⟨hle, hsome⟩ := h (by omega)
    have habs : ((e.natAbs : Nat) : Int) = e := by omega
    refine givesDouble_exponentPart_positive hdigits hs hstart ?_ ?_
    · rw [hvalue]
      unfold exponentLimit
      omega
    · rwa [hvalue, habs]

/-- One digit, the other ones behind a point if there are any, and an exponent. -/
theorem Readable.givesDouble_exponent (h : Readable d) {rest : List Char}
    (hdigits : Nat.toDigits 10 d.digits = c :: rest) :
    GivesDouble (number positive) ([c] ++ ((if rest = [] then [] else '.' :: rest) ++
      (exponentText (rest.length + d.exponent)).toList)) := by
  obtain ⟨hc, hrest, hvalue⟩ := digits_of_toDigits hdigits
  have hone : Nat.ofDigitChars 10 [c] 0 = c.toNat - 48 := by
    rw [Nat.ofDigitChars_cons, Nat.ofDigitChars_nil, Nat.mul_zero, Nat.zero_add]
    rfl
  have hfits : c.toNat - 48 < 2 ^ 64 := (digit_lt hc).trans (by decide)
  obtain ⟨hlt, j, hj, hfirst, hwhole⟩ := exists_gathered rest 0 hfits
  rw [hvalue] at hfirst hwhole
  have hsize : (rest.length : Int) + d.exponent ≤ 308 := by
    rcases Nat.eq_zero_or_pos d.digits with hzero | hpos
    · rw [hzero, Nat.toDigits_zero] at hdigits
      rw [← (List.cons.inj hdigits).2, h.zero hzero]
      decide
    · have := h.size (ten_pow_le_of_toDigits hpos hdigits)
      omega
  have htail : GivesDouble (exponentPart positive (gathered rest (c.toNat - 48) 0).1
      (0 - (gathered rest (c.toNat - 48) 0).2)) (exponentText (rest.length + d.exponent)).toList := by
    refine givesDouble_exponentText hlt (by omega) fun _ => ⟨hsize, ?_⟩
    have hsum : (0 : Int) - (gathered rest (c.toNat - 48) 0).2 + (rest.length + d.exponent) =
        d.exponent + j := by omega
    rw [hsum]
    exact h.assembles hlt hfirst hwhole
  rw [toList_exponentText] at htail ⊢
  split
  · rename_i hnil
    subst hnil
    refine GivesDouble.number_exponent (isWhole_singleton hc) (hone ▸ hfits) ?_
    rw [hone]
    exact htail
  · rename_i hne
    refine GivesDouble.number_places (isWhole_singleton hc) (hone ▸ hfits) ⟨hne, hrest⟩ ?_ ?_
    · rintro cs - x ⟨⟩
      rfl
    · rw [hone]
      exact htail.afterPlaces

/-- A point behind all digits. -/
theorem givesDouble_whole {n k : Nat} (hzero : n = 0 → k = 0)
    (hlength : (Nat.toDigits 10 n).length + k ≤ 16) :
    GivesDouble (number positive) (Nat.toDigits 10 n ++ List.replicate k '0' ++ ['.', '0']) := by
  have hdigits : ∀ x ∈ Nat.toDigits 10 n ++ List.replicate k '0', Text.isDigit x = true := by
    intro x hx
    rcases List.mem_append.mp hx with hx | hx
    · exact isDigit_of_mem_toDigits hx
    · exact isDigit_replicate _ x hx
  refine givesDouble_number_places ?_ (ofDigitChars_fits hdigits ?_) ?_
  · rcases Nat.eq_zero_or_pos n with hn | hn
    · rw [hzero hn, hn]
      exact .zero
    · exact isWhole_of_prefix hn Nat.toDigits_ne_nil (List.prefix_refl _) (isDigit_replicate _)
  · rwa [List.length_append, List.length_replicate]
  · exact ⟨List.cons_ne_nil _ _, List.forall_mem_singleton.mpr rfl⟩

/-- A point between digits. -/
theorem givesDouble_between {n k : Nat} (hn : 0 < n) (hk : 0 < k)
    (hlength : k < (Nat.toDigits 10 n).length) (hsixteen : k ≤ 16) :
    GivesDouble (number positive)
      ((Nat.toDigits 10 n).take k ++ '.' :: (Nat.toDigits 10 n).drop k) := by
  have htake : ∀ x ∈ (Nat.toDigits 10 n).take k, Text.isDigit x = true := fun x hx =>
    isDigit_of_mem_toDigits (List.mem_of_mem_take hx)
  refine givesDouble_number_places ?_ (ofDigitChars_fits htake ?_) ⟨?_, fun x hx => ?_⟩
  · have hne : (Nat.toDigits 10 n).take k ≠ [] := by
      refine List.ne_nil_of_length_pos ?_
      rw [List.length_take]
      omega
    have := isWhole_of_prefix hn hne (List.take_prefix k _) (List.forall_mem_nil _)
    rwa [List.append_nil] at this
  · rw [List.length_take]
    omega
  · refine List.ne_nil_of_length_pos ?_
    rw [List.length_drop]
    omega
  · exact isDigit_of_mem_toDigits (List.mem_of_mem_drop hx)

/-- A point before zeros and all digits. -/
theorem givesDouble_below (n k : Nat) :
    GivesDouble (number positive) ('0' :: '.' :: (List.replicate k '0' ++ Nat.toDigits 10 n)) := by
  refine givesDouble_number_places .zero (by decide) ⟨?_, fun x hx => ?_⟩
  · exact List.append_ne_nil_of_right_ne_nil _ Nat.toDigits_ne_nil
  · rcases List.mem_append.mp hx with hx | hx
    · exact isDigit_replicate _ x hx
    · exact isDigit_of_mem_toDigits hx

/-- Digits in range are read back in the layout of documents. -/
theorem Readable.givesDouble_layout (h : Readable d) :
    GivesDouble (number positive) (d.layout Decimal.Style.document).toList := by
  unfold Scaled.layout natText
  dsimp only
  rw [String.length_ofList]
  split
  · rename_i hpositional
    obtain ⟨-, hsixteen⟩ : -5 < ((Nat.toDigits 10 d.digits).length : Int) + d.exponent ∧
        ((Nat.toDigits 10 d.digits).length : Int) + d.exponent ≤ 16 := hpositional
    split
    · rw [String.toList_append, String.toList_append, String.toList_ofList, toList_zeros]
      exact givesDouble_whole (fun hzero => by rw [h.zero hzero]; rfl) (by omega)
    split
    · have hpos : 0 < d.digits := Nat.pos_of_ne_zero fun hzero => by
        have := h.zero hzero
        omega
      simp only [String.toList_append, String.toList_ofList, List.append_assoc]
      refine givesDouble_between hpos ?_ ?_ ?_
      all_goals omega
    · simp only [String.toList_append, String.toList_ofList, toList_zeros, List.append_assoc]
      exact givesDouble_below _ _
  · obtain ⟨c, rest, hdigits⟩ := List.exists_cons_of_ne_nil
      (Nat.toDigits_ne_nil (n := d.digits) (b := 10))
    have hexp : GivesDouble (number positive) _ := h.givesDouble_exponent hdigits
    have hpoint : ((c :: rest).length : Int) + d.exponent - 1 = rest.length + d.exponent := by
      rw [List.length_cons]
      omega
    rw [hdigits, hpoint]
    simp only [String.toList_ofList, List.take_succ_cons, List.take_zero, List.drop_succ_cons,
      List.drop_zero, String.toList_append]
    split
    · rename_i hempty
      have hnil : rest = [] := by simpa using hempty
      rw [if_pos hnil] at hexp
      simpa using hexp
    · rename_i hempty
      have hne : rest ≠ [] := by simpa using hempty
      rw [if_neg hne] at hexp
      simpa using hexp

end

/-- A number begins with a digit. -/
theorem GivesDouble.begins (h : GivesDouble (number positive) text) :
    ∃ c rest, text = c :: rest ∧ Text.isDigit c = true := by
  obtain ⟨y, hy⟩ := h
  obtain ⟨k, -, hread⟩ := hy [] endsNumber_nil ⟨text ++ [], 1, 0⟩ rfl
  cases text with
  | nil => cases hread
  | cons c rest =>
    by_cases hc : Text.isDigit c = true
    · exact ⟨c, rest, rfl, hc⟩
    · have hfault : Leads (number positive) (c :: rest) (faultAhead .badNumber) (c :: rest) := by
        refine (leads_peek _).bind.trans ?_
        split
        · rename_i heq
          cases heq
        · rename_i heq
          cases heq
          exact absurd rfl hc
        · rename_i heq
          cases heq
          rw [if_neg hc]
          exact .refl _ _
      obtain ⟨k', -, hread'⟩ := hfault ⟨c :: rest ++ [], 1, 0⟩ (List.append_nil _)
      rw [hread'] at hread
      cases hread

/-- What a finite double is made of. -/
theorem ofFloat_bounds {x : Float} (h : Decimal.isFinite x = true) :
    (Binary.ofFloat x).m < 2 ^ 53 ∧ (Binary.ofFloat x).q ≤ 971 := by
  have hexponent : (Decimal.fields x).2.1 < 2047 := of_decide_eq_true h
  have hfraction : (Decimal.fields x).2.2 < 2 ^ 52 := Nat.mod_lt _ (by decide)
  unfold Binary.ofFloat
  generalize Decimal.fields x = parts at hexponent hfraction
  obtain ⟨negative, e, f⟩ := parts
  dsimp only at hexponent hfraction ⊢
  have hpow : Nat.pow 2 52 = 2 ^ 52 := rfl
  split
  · exact ⟨by dsimp only; omega, by dsimp only; omega⟩
  · rw [hpow]
    exact ⟨by dsimp only; omega, by dsimp only; omega⟩

/-- The text of a finite double is read back as a double. -/
theorem exists_documentText {x : Float} (h : Decimal.isFinite x = true) :
    ∃ body, (∀ positive, GivesDouble (number positive) body) ∧
      ((Decimal.documentText x).toList = body ∨ (Decimal.documentText x).toList = '-' :: body) := by
  have hwhole : ∀ {n : Nat}, n < 2 ^ 53 → ∀ positive,
      GivesDouble (number positive) (natText n ++ ".0").toList := by
    intro n hn positive
    have hlength : (Nat.toDigits 10 n).length ≤ 16 :=
      (Nat.length_toDigits_le_iff (by decide) (by decide)).mpr (hn.trans (by decide))
    have hread : GivesDouble (number positive) _ :=
      givesDouble_whole (n := n) (k := 0) (fun _ => rfl) hlength
    simpa [natText] using hread
  obtain ⟨hm, hq⟩ := ofFloat_bounds h
  unfold Decimal.documentText Decimal.finiteText
  generalize Decimal.fields x = parts
  obtain ⟨negative, e, f⟩ := parts
  dsimp only
  split
  · refine ⟨_, hwhole (n := 0) (by decide), ?_⟩
    split
    · exact .inr rfl
    · exact .inl rfl
  · generalize Binary.ofFloat x = b at hm hq
    have hbody : ∃ body : String, (∀ positive, GivesDouble (number positive) body.toList) ∧
        (if b.q ≤ 0 ∧ b.q ≥ -52 ∧ b.m % Nat.pow 2 (-b.q).toNat = 0 then
          natText (b.m / Nat.pow 2 (-b.q).toNat) ++ Decimal.Style.document.wholeSuffix
        else (shortest b).layout Decimal.Style.document) = body := by
      split
      · exact ⟨_, hwhole ((Nat.div_le_self _ _).trans_lt hm), rfl⟩
      · exact ⟨_, fun _ => (readable_shortest hm hq).givesDouble_layout, rfl⟩
    obtain ⟨body, hread, heq⟩ := hbody
    refine ⟨_, hread, ?_⟩
    rw [heq]
    cases negative with
    | false => exact .inl rfl
    | true =>
      refine .inr ?_
      rw [if_pos rfl, String.toList_append]
      rfl

end Reader

end Playpen.Json
