import Playpen.Decimal.Double
import Mathlib.Algebra.Order.Field.Power
import Mathlib.Tactic.Ring
import Mathlib.Tactic.Linarith
import Mathlib.Tactic.NormNum
import Mathlib.Tactic.Positivity
import Mathlib.Tactic.GCongr

/-!
# How doubles are rounded

Arithmetic of doubles is exact arithmetic that is rounded.  What rounding gives is
laid down in full (`roundWithAccuracy_eq`).  A number with enough bits is rounded
upwards by less than one part in `2^52` (`round_normal`), so products are bounded
by exact ones (`IsNormal`); and no number is raised above the exponent that its
bits call for by more than one (`within_roundWithAccuracy`), so quotients stay
away from infinity (`Within`).

A double is packed into bits and unpacked again between any two operations.
Unless its exponent is too large it is unpacked as what was packed.
-/

namespace Playpen.Decimal

open Float.Model (Format totalExponent UnpackedFloat)
open Float.Model.UnpackedFloat

/-! ## Rounding -/

section

variable {m : Nat} {e : Int}

theorem mantissa_shiftRight (em : ExtendedMantissa) (k : Nat) :
    (em >>> k).mantissa = em.mantissa / 2 ^ k := by
  induction k with
  | zero => exact (Nat.div_one _).symm
  | succ k ih =>
    show (em >>> k).shiftRightOne.mantissa = _
    rw [ExtendedMantissa.shiftRightOne, ih, Nat.div_div_eq_div_mul, ← Nat.pow_succ]

theorem mantissa_ofMantissaAndAccuracy (m : Nat) (a : Accuracy) :
    (ExtendedMantissa.ofMantissaAndAccuracy m a).mantissa = m := by
  cases a with
  | exact => rfl
  | inexact o =>
    cases o with
    | lt => rfl
    | eq => rfl
    | gt => rfl

/-- Rounding goes up by one unit at most. -/
theorem roundedMantissa_le (em : ExtendedMantissa) : em.roundedMantissa ≤ em.mantissa + 1 := by
  obtain ⟨m, round, sticky⟩ := em
  cases round with
  | false =>
    cases sticky with
    | false => exact Nat.le_succ m
    | true => exact Nat.le_succ m
  | true =>
    cases sticky with
    | false => exact Nat.add_le_add_left (Nat.lt_succ_iff.mp (Nat.mod_lt m Nat.two_pos)) m
    | true => exact Nat.le_refl _

theorem le_roundedMantissa (em : ExtendedMantissa) : em.mantissa ≤ em.roundedMantissa := by
  obtain ⟨m, round, sticky⟩ := em
  cases round with
  | false =>
    cases sticky with
    | false => exact Nat.le_refl m
    | true => exact Nat.le_refl m
  | true =>
    cases sticky with
    | false => exact Nat.le_add_right m _
    | true => exact Nat.le_succ m

theorem targetExponent_eq (m : Nat) (e : Int) :
    Format.binary64.targetExponent (totalExponent m e) = max (m.log2 + e - 52) (-1074) := by
  have hmin : Format.binary64.minExponent = -1074 := by decide
  have hbits : (Format.binary64.mantissaBits : Int) = 53 := by decide
  rw [Format.targetExponent, totalExponent, hmin, hbits]
  omega

/-- How many bits are dropped. -/
def dropped (m : Nat) (e : Int) : Nat := (max (m.log2 + e - 52) (-1074) - e).toNat

theorem shiftToTargetExponent_eq (m : Nat) (e : Int) (a : Accuracy) :
    shiftToTargetExponent Format.binary64 m e a =
      (ExtendedMantissa.ofMantissaAndAccuracy m a >>> dropped m e, e + dropped m e) := by
  rw [shiftToTargetExponent, shiftToExponent, targetExponent_eq, dropped]

theorem div_dropped_lt (m : Nat) (e : Int) : m / 2 ^ dropped m e < 2 ^ 53 := by
  rw [Nat.div_lt_iff_lt_mul (Nat.two_pow_pos _), ← Nat.pow_add]
  refine Nat.lt_of_lt_of_le Nat.lt_log2_self (Nat.pow_le_pow_right Nat.two_pos ?_)
  unfold dropped
  omega

/-- The mantissa after the first shift, rounded. -/
def roundedOnce (m : Nat) (e : Int) (a : Accuracy) : Nat :=
  (ExtendedMantissa.ofMantissaAndAccuracy m a >>> dropped m e).roundedMantissa

theorem roundedOnce_le (m : Nat) (e : Int) (a : Accuracy) :
    roundedOnce m e a ≤ m / 2 ^ dropped m e + 1 := by
  have := roundedMantissa_le (ExtendedMantissa.ofMantissaAndAccuracy m a >>> dropped m e)
  rwa [mantissa_shiftRight, mantissa_ofMantissaAndAccuracy] at this

theorem le_roundedOnce (m : Nat) (e : Int) (a : Accuracy) :
    m / 2 ^ dropped m e ≤ roundedOnce m e a := by
  have := le_roundedMantissa (ExtendedMantissa.ofMantissaAndAccuracy m a >>> dropped m e)
  rwa [mantissa_shiftRight, mantissa_ofMantissaAndAccuracy] at this

theorem roundedOnce_le_two_pow (m : Nat) (e : Int) (a : Accuracy) :
    roundedOnce m e a ≤ 2 ^ 53 := by
  have := roundedOnce_le m e a
  have := div_dropped_lt m e
  omega

/-- The one bit that rounding up may have added, which a second shift drops. -/
def spilled (m : Nat) (e : Int) (a : Accuracy) : Nat := if roundedOnce m e a = 2 ^ 53 then 1 else 0

theorem dropped_roundedOnce (m : Nat) (e : Int) (a : Accuracy) :
    dropped (roundedOnce m e a) (e + dropped m e) = spilled m e a := by
  have hexponent : -1074 ≤ e + dropped m e := by
    unfold dropped
    omega
  have hr := roundedOnce_le_two_pow m e a
  by_cases hfull : roundedOnce m e a = 2 ^ 53
  · rw [spilled, if_pos hfull, hfull]
    unfold dropped at hexponent ⊢
    rw [Nat.log2_two_pow]
    omega
  · have hlog : (roundedOnce m e a).log2 ≤ 52 := by
      by_cases hzero : roundedOnce m e a = 0
      · rw [hzero]
        decide
      · exact Nat.lt_succ_iff.mp ((Nat.log2_lt hzero).mpr (by omega))
    rw [spilled, if_neg hfull]
    generalize roundedOnce m e a = r at hlog
    unfold dropped at hexponent ⊢
    omega

/-- What rounding gives: the mantissa rounded once, and its last bit dropped if
it has become too long. -/
theorem roundWithAccuracy_eq (s : Sign) (m : Nat) (e : Int) (a : Accuracy) :
    roundWithAccuracy Format.binary64 s m e a =
      if h : roundedOnce m e a / 2 ^ spilled m e a = 0 then .zero s
      else .finite s (roundedOnce m e a / 2 ^ spilled m e a) (e + dropped m e + spilled m e a)
        (Nat.pos_of_ne_zero h) := by
  rw [roundWithAccuracy, shiftToTargetExponent_eq]
  dsimp only
  rw [← roundedOnce, shiftToTargetExponent_eq, dropped_roundedOnce]
  have hmantissa : (ExtendedMantissa.ofMantissaAndAccuracy (roundedOnce m e a) .exact >>>
      spilled m e a).mantissa = roundedOnce m e a / 2 ^ spilled m e a := by
    rw [mantissa_shiftRight, mantissa_ofMantissaAndAccuracy]
  rw [← hmantissa]

end

/-! ## The value of a rounded number -/

/-- The number `m · 2^e`. -/
def worth (m : Nat) (e : Int) : ℚ := m * 2 ^ e

theorem worth_add (m : Nat) (e : Int) (k : Nat) : worth m (e + k) = worth (m * 2 ^ k) e := by
  rw [worth, worth, zpow_add₀ two_ne_zero, zpow_natCast]
  push_cast
  ring

/-- One part in `2^52`, and one. -/
def slack : ℚ := 1 + 1 / 2 ^ 52

/-- Rounding up by one unit is not much where 53 bits are left. -/
theorem roundedOnce_mul_le {m : Nat} {e : Int} (a : Accuracy) (h : 2 ^ 52 ≤ m / 2 ^ dropped m e) :
    roundedOnce m e a * 2 ^ dropped m e * 2 ^ 52 ≤ m * (2 ^ 52 + 1) := by
  have hr := roundedOnce_le m e a
  have hdiv : m / 2 ^ dropped m e * 2 ^ dropped m e ≤ m := Nat.div_mul_le_self ..
  have hone : 2 ^ dropped m e * 2 ^ 52 ≤ m := by
    rw [Nat.mul_comm]
    exact (Nat.le_div_iff_mul_le (Nat.two_pow_pos _)).mp h
  calc roundedOnce m e a * 2 ^ dropped m e * 2 ^ 52
      ≤ (m / 2 ^ dropped m e + 1) * 2 ^ dropped m e * 2 ^ 52 := by gcongr
    _ = m / 2 ^ dropped m e * 2 ^ dropped m e * 2 ^ 52 + 2 ^ dropped m e * 2 ^ 52 := by ring
    _ ≤ m * 2 ^ 52 + m := by gcongr
    _ = m * (2 ^ 52 + 1) := by ring

theorem worth_roundedOnce_le {m : Nat} {e : Int} (a : Accuracy)
    (h : 2 ^ 52 ≤ m / 2 ^ dropped m e) :
    worth (roundedOnce m e a) (e + dropped m e) ≤ worth m e * slack := by
  have hcast : (roundedOnce m e a * 2 ^ dropped m e : ℚ) * 2 ^ 52 ≤ m * (2 ^ 52 + 1) := by
    exact_mod_cast roundedOnce_mul_le a h
  have hratio : (roundedOnce m e a * 2 ^ dropped m e : ℚ) ≤ m * (1 + 1 / 2 ^ 52) := by
    linarith
  have hpow : (0 : ℚ) < 2 ^ e := zpow_pos (by norm_num) e
  rw [worth_add, worth, worth, slack]
  push_cast
  calc (roundedOnce m e a * 2 ^ dropped m e : ℚ) * 2 ^ e ≤ m * (1 + 1 / 2 ^ 52) * 2 ^ e := by
        gcongr
    _ = m * 2 ^ e * (1 + 1 / 2 ^ 52) := by ring

/-- A number with a long enough mantissa is rounded to one of 53 bits, upwards
by less than one part in `2^52`. -/
theorem round_normal (s : Sign) {m : Nat} {e : Int} (a : Accuracy) (hm : 2 ^ 52 ≤ m)
    (he : -1074 ≤ m.log2 + e - 52) :
    ∃ m' e' h, roundWithAccuracy Format.binary64 s m e a = .finite s m' e' h ∧
      2 ^ 52 ≤ m' ∧ m' < 2 ^ 53 ∧ m.log2 + e - 52 ≤ e' ∧ worth m' e' ≤ worth m e * slack := by
  have hlog : 52 ≤ m.log2 := (Nat.le_log2 (by omega)).mpr hm
  have hdropped : (dropped m e : Int) = m.log2 - 52 := by
    unfold dropped
    omega
  have hquotient : 2 ^ 52 ≤ m / 2 ^ dropped m e := by
    rw [Nat.le_div_iff_mul_le (Nat.two_pow_pos _), ← Nat.pow_add]
    exact (Nat.le_log2 (by omega)).mp (by omega)
  have hr := le_roundedOnce m e a
  have hmax := roundedOnce_le_two_pow m e a
  have hvalue := worth_roundedOnce_le a hquotient
  rw [roundWithAccuracy_eq]
  by_cases hfull : roundedOnce m e a = 2 ^ 53
  · have hspilled : spilled m e a = 1 := if_pos hfull
    rw [dif_neg (by rw [hspilled]; omega)]
    refine ⟨_, _, _, rfl, ?_⟩
    rw [hspilled, hfull]
    refine ⟨by decide, by decide, by omega, ?_⟩
    rw [hfull] at hvalue
    refine le_trans (le_of_eq ?_) hvalue
    rw [worth_add]
    norm_num
  · have hspilled : spilled m e a = 0 := if_neg hfull
    rw [dif_neg (by rw [hspilled]; omega)]
    refine ⟨_, _, _, rfl, ?_⟩
    rw [hspilled]
    refine ⟨by omega, by omega, by omega, ?_⟩
    simpa using hvalue

/-! ## Packing -/

/-- Zero or a finite number, as rounding gives it. -/
inductive IsReal : UnpackedFloat → Prop where
  | zero (s : Sign) : IsReal (.zero s)
  | finite (s : Sign) (m : Nat) (e : Int) (h : 0 < m) : IsReal (.finite s m e h)

/-- A number with an exponent up to a bound. -/
inductive Within (b : Int) : UnpackedFloat → Prop where
  | zero (s : Sign) : Within b (.zero s)
  | finite (s : Sign) (m : Nat) (e : Int) (h : 0 < m) (hm : m < 2 ^ 53) (he : e ≤ b) :
      Within b (.finite s m e h)

theorem Within.mono {b c : Int} {z : UnpackedFloat} (h : Within b z) (hle : b ≤ c) : Within c z := by
  cases h with
  | zero s => exact .zero s
  | finite s m e hpos hm he => exact .finite s m e hpos hm (he.trans hle)

theorem isReal_roundWithAccuracy (s : Sign) (m : Nat) (e : Int) (a : Accuracy) :
    IsReal (roundWithAccuracy Format.binary64 s m e a) := by
  rw [roundWithAccuracy_eq]
  by_cases hzero : roundedOnce m e a / 2 ^ spilled m e a = 0
  · rw [dif_pos hzero]
    exact .zero s
  · rw [dif_neg hzero]
    exact .finite ..

/-- Rounding raises the exponent to the target, and by one at most. -/
theorem within_roundWithAccuracy (s : Sign) {m : Nat} {e c : Int} (a : Accuracy) (he : e ≤ c)
    (hlog : m.log2 + e - 52 ≤ c) (hlo : -1074 ≤ c) :
    Within (c + 1) (roundWithAccuracy Format.binary64 s m e a) := by
  have hmax := roundedOnce_le_two_pow m e a
  have hdropped : e + dropped m e ≤ c := by
    unfold dropped
    omega
  rw [roundWithAccuracy_eq]
  by_cases hzero : roundedOnce m e a / 2 ^ spilled m e a = 0
  · rw [dif_pos hzero]
    exact .zero s
  · rw [dif_neg hzero]
    by_cases hfull : roundedOnce m e a = 2 ^ 53
    · have hspilled : spilled m e a = 1 := if_pos hfull
      exact .finite _ _ _ _ (by rw [hspilled, hfull]; decide) (by omega)
    · have hspilled : spilled m e a = 0 := if_neg hfull
      exact .finite _ _ _ _ (by rw [hspilled]; omega) (by omega)

/-- The bits of a double. -/
def bits (x : Float) : BitVec Format.binary64.numBits := x.toBits.toBitVec

def exponentBits (x : Float) : BitVec 11 := unpackExponent (bits x)

def mantissaBits (x : Float) : BitVec 52 := unpackMantissa (bits x)

theorem exponentField_eq (x : Float) : (fields x).2.1 = (exponentBits x).toNat := by
  rw [exponentBits, unpackExponent, BitVec.toNat_cast, BitVec.extractLsb_toNat,
    Nat.shiftRight_eq_div_pow]
  rfl

theorem toNat_ones : (-1#11 : BitVec 11).toNat = 2047 := by decide

theorem isFinite_iff {x : Float} : isFinite x = true ↔ exponentBits x ≠ -1#11 := by
  rw [isFinite, exponentField_eq, decide_eq_true_eq, Ne, ← BitVec.toNat_inj, toNat_ones]
  have hlt := (exponentBits x).isLt
  omega

theorem bias_eq : (Format.binary64.exponentBias : Int) = 1023 := by decide

/-! ### From bits -/

section

variable {x : Float}

theorem unpack_normal (hones : exponentBits x ≠ -1#11) (hzero : exponentBits x ≠ 0#11) :
    ∃ s h, x.toModel.unpack =
      .finite s (2 ^ 52 + (mantissaBits x).toNat) ((exponentBits x).toNat - 1075) h := by
  have hmantissa : (1#1 ++ mantissaBits x).toNat = 2 ^ 52 + (mantissaBits x).toNat := by
    rw [BitVec.toNat_append, ← Nat.shiftLeft_add_eq_or_of_lt (BitVec.isLt _)]
    rfl
  have hexponent : ((exponentBits x).toNat : Int) - (Format.binary64.exponentBias +
      (Format.binary64.mantissaBitsWithoutImplicit : Nat)) = (exponentBits x).toNat - 1075 := by
    rw [bias_eq]
    show ((exponentBits x).toNat : Int) - (1023 + ((52 : Nat) : Int)) = _
    omega
  show ∃ s h, UnpackedFloat.unpack Format.binary64 (bits x) = .finite s _ _ h
  unfold exponentBits at hones hzero
  delta UnpackedFloat.unpack
  dsimp only
  rw [if_neg hones, if_neg hzero]
  refine ⟨Sign.ofBitVec (unpackSign (bits x)), by omega, ?_⟩
  rw [UnpackedFloat.finite.injEq]
  exact ⟨rfl, hmantissa, hexponent⟩

theorem not_isReal_unpack (hones : exponentBits x = -1#11) : ¬IsReal x.toModel.unpack := by
  show ¬IsReal (UnpackedFloat.unpack Format.binary64 (bits x))
  unfold exponentBits at hones
  delta UnpackedFloat.unpack
  dsimp only
  rw [if_pos hones]
  split
  · rintro ⟨⟩
  · rintro ⟨⟩

theorem unpack_small (hzero : exponentBits x = 0#11) : Within (-1074) x.toModel.unpack := by
  show Within (-1074) (UnpackedFloat.unpack Format.binary64 (bits x))
  unfold exponentBits at hzero
  delta UnpackedFloat.unpack
  dsimp only
  rw [if_neg (by rw [hzero]; decide), if_pos hzero]
  by_cases hmantissa : unpackMantissa (bits x) = 0#52
  · rw [dif_pos hmantissa]
    exact .zero _
  · rw [dif_neg hmantissa]
    refine .finite _ _ _ _ (Nat.lt_trans (BitVec.isLt _) (by decide)) ?_
    rw [hzero, bias_eq]
    decide

/-- What a finite double holds. -/
theorem within_unpack (h : isFinite x = true) : Within 971 x.toModel.unpack := by
  have hones := isFinite_iff.mp h
  by_cases hzero : exponentBits x = 0#11
  · exact (unpack_small hzero).mono (by decide)
  · obtain ⟨s, hpos, hunpack⟩ := unpack_normal hones hzero
    have hmantissa := (mantissaBits x).isLt
    have hlt := (exponentBits x).isLt
    rw [Ne, ← BitVec.toNat_inj, toNat_ones] at hones
    rw [hunpack]
    exact .finite _ _ _ _ (by omega) (by omega)

end

/-! ### To bits -/

/-- A number as a double. -/
def packed (z : UnpackedFloat) : Float := .ofModel (.pack z)

theorem bits_packed (z : UnpackedFloat) : bits (packed z) = UnpackedFloat.pack Format.binary64 z := rfl

section

variable {s : Sign} {m : Nat} {e : Int} {h : 0 < m}

theorem biased_eq (e : Int) :
    (e + Format.binary64.exponentBias + ((52 : Nat) : Int)).toNat = (e + 1075).toNat := by
  rw [bias_eq]
  omega

theorem bits_packed_zero (s : Sign) : exponentBits (packed (.zero s)) = 0#11 := by
  rw [exponentBits, bits_packed]
  exact unpackExponent_packComponents

theorem pack_finite (s : Sign) (m : Nat) (e : Int) (h : 0 < m) :
    UnpackedFloat.pack Format.binary64 (.finite s m e h) =
      if 2 ^ 11 ≤ (e + 1075).toNat + 1 then packedInfinity Format.binary64 s
      else if m.log2 + 1 = Format.binary64.mantissaBits then
        packComponents Format.binary64 s (BitVec.ofNat 11 (e + 1075).toNat) (BitVec.ofNat 52 m)
      else packComponents Format.binary64 s 0#11 (BitVec.ofNat 52 m) := by
  rw [← biased_eq]
  rfl

/-- A number of fewer than 53 bits has no exponent of its own. -/
theorem bits_packed_short (hlog : m.log2 + 1 ≠ Format.binary64.mantissaBits) (he : e ≤ 971) :
    exponentBits (packed (.finite s m e h)) = 0#11 := by
  have hover : ¬2 ^ 11 ≤ (e + 1075).toNat + 1 := by omega
  rw [exponentBits, bits_packed, pack_finite, if_neg hover, if_neg hlog]
  exact unpackExponent_packComponents

/-- A number of 53 bits has its exponent and the bits behind the first one. -/
theorem bits_packed_long (hlog : m.log2 + 1 = Format.binary64.mantissaBits) (he : e ≤ 971) :
    (exponentBits (packed (.finite s m e h))).toNat = (e + 1075).toNat ∧
      (mantissaBits (packed (.finite s m e h))).toNat = m % 2 ^ 52 := by
  have hover : ¬2 ^ 11 ≤ (e + 1075).toNat + 1 := by omega
  rw [exponentBits, mantissaBits, bits_packed, pack_finite, if_neg hover, if_pos hlog,
    unpackExponent_packComponents, unpackMantissa_packComponents, BitVec.toNat_ofNat,
    BitVec.toNat_ofNat]
  refine ⟨?_, rfl⟩
  show (e + 1075).toNat % 2048 = _
  omega

end

/-- What is packed is finite or infinite. -/
theorem isFinite_packed_of_not_isInf {z : UnpackedFloat} (hz : IsReal z)
    (h : (packed z).isInf = false) : isFinite (packed z) = true := by
  have hinf : ∀ s, bits (packed z) ≠ packedInfinity Format.binary64 s := by
    intro s heq
    have : (packed z).isInf = true := by
      show (UnpackedFloat.unpack Format.binary64 (bits (packed z))).isInf = true
      rw [heq]
      cases s <;> rfl
    rw [h] at this
    cases this
  rw [isFinite_iff]
  cases hz with
  | zero s =>
    rw [bits_packed_zero]
    decide
  | finite s m e hm =>
    by_cases he : e ≤ 971
    · by_cases hlog : m.log2 + 1 = Format.binary64.mantissaBits
      · obtain ⟨hexponent, -⟩ := bits_packed_long (s := s) (h := hm) hlog he
        rw [Ne, ← BitVec.toNat_inj, hexponent, toNat_ones]
        omega
      · rw [bits_packed_short hlog he]
        decide
    · -- the exponent is too large, so that infinity is packed
      have hover : 2 ^ 11 ≤ (e + 1075).toNat + 1 := by omega
      refine absurd ?_ (hinf s)
      rw [bits_packed, pack_finite, if_pos hover]

/-- What is packed with an exponent that is not too large is unpacked as such. -/
theorem within_packed {c : Int} {z : UnpackedFloat} (h : Within c z) (hlo : -1074 ≤ c)
    (hhi : c ≤ 971) : Within c (packed z).toModel.unpack := by
  by_cases hzero : exponentBits (packed z) = 0#11
  · exact (unpack_small hzero).mono hlo
  · cases h with
    | zero s => exact absurd (bits_packed_zero s) hzero
    | finite s m e hpos hm he =>
      by_cases hlog : m.log2 + 1 = Format.binary64.mantissaBits
      · obtain ⟨hexponent, -⟩ := bits_packed_long (s := s) (h := hpos) hlog (he.trans hhi)
        have hones : exponentBits (packed (.finite s m e hpos)) ≠ -1#11 := by
          rw [Ne, ← BitVec.toNat_inj, hexponent, toNat_ones]
          omega
        obtain ⟨s', hpos', hunpack⟩ := unpack_normal hones hzero
        have hmantissa := (mantissaBits (packed (.finite s m e hpos))).isLt
        rw [← BitVec.toNat_inj, hexponent] at hzero
        have hnonzero : (e + 1075).toNat ≠ 0 := hzero
        rw [hunpack]
        exact .finite _ _ _ _ (by omega) (by omega)
      · exact absurd (bits_packed_short hlog (he.trans hhi)) hzero

/-- A number of 53 bits is unpacked as it was packed. -/
theorem unpack_packed {s : Sign} {m : Nat} {e : Int} {h : 0 < m} (hm : 2 ^ 52 ≤ m)
    (hlt : m < 2 ^ 53) (hlo : -1074 ≤ e) (hhi : e ≤ 971) :
    ∃ s' h', (packed (.finite s m e h)).toModel.unpack = .finite s' m e h' := by
  have hlog : m.log2 + 1 = Format.binary64.mantissaBits := by
    have h52 : m.log2 = 52 := by
      rw [Nat.log2_eq_iff (by omega)]
      exact ⟨hm, hlt⟩
    rw [h52]
    rfl
  obtain ⟨hexponent, hmantissa⟩ := bits_packed_long (s := s) (h := h) hlog hhi
  have hne : ∀ v : BitVec 11, v.toNat ≠ (e + 1075).toNat →
      exponentBits (packed (.finite s m e h)) ≠ v := by
    rintro v hv rfl
    exact hv hexponent
  obtain ⟨s', hpos, hunpack⟩ := unpack_normal (hne (-1#11) (by rw [toNat_ones]; omega))
    (hne 0#11 (by show 0 ≠ _; omega))
  refine ⟨s', h, ?_⟩
  rw [hunpack]
  rw [UnpackedFloat.finite.injEq]
  exact ⟨rfl, by omega, by omega⟩

/-! ## Numbers among the doubles -/

theorem Within.isReal {c : Int} {z : UnpackedFloat} (h : Within c z) : IsReal z := by
  cases h with
  | zero s => exact .zero s
  | finite s m e hpos _ _ => exact .finite s m e hpos

theorem isFinite_of_isReal {x : Float} (h : IsReal x.toModel.unpack) : isFinite x = true := by
  rw [isFinite_iff]
  exact fun hones => not_isReal_unpack hones h

theorem isInf_of_isReal {x : Float} (h : IsReal x.toModel.unpack) : x.isInf = false := by
  show x.toModel.unpack.isInf = false
  generalize x.toModel.unpack = z at h
  cases h with
  | zero s => rfl
  | finite s m e hpos => rfl

theorem isFinite_neg {x : Float} (h : isFinite x = true) : isFinite (-x) = true := by
  have hneg : -x = packed x.toModel.unpack.neg := rfl
  have hwithin := within_unpack h
  rw [hneg]
  refine isFinite_of_isReal (within_packed (c := 971) ?_ (by decide) (by decide)).isReal
  generalize x.toModel.unpack = z at hwithin
  cases hwithin with
  | zero s => exact .zero _
  | finite s m e hpos hm he => exact .finite _ m e hpos hm he

/-- A double of 53 bits that is at most `v`. -/
def IsNormal (x : Float) (lo : Int) (v : ℚ) : Prop :=
  ∃ s m e h, x.toModel.unpack = .finite s m e h ∧ 2 ^ 52 ≤ m ∧ m < 2 ^ 53 ∧ lo ≤ e ∧ worth m e ≤ v

theorem IsNormal.isReal {x : Float} {lo : Int} {v : ℚ} (h : IsNormal x lo v) :
    IsReal x.toModel.unpack := by
  obtain ⟨s, m, e, hpos, hunpack, -⟩ := h
  rw [hunpack]
  exact .finite s m e hpos

theorem two_pow_le_worth {m : Nat} {e : Int} (hm : 2 ^ 52 ≤ m) : (2 : ℚ) ^ (52 + e) ≤ worth m e := by
  rw [worth, zpow_add₀ two_ne_zero]
  have : ((2 : ℚ) ^ (52 : Int)) ≤ m := by exact_mod_cast hm
  have hpow : (0 : ℚ) < 2 ^ e := zpow_pos (by norm_num) e
  gcongr

/-- A bound on a number of 53 bits bounds its exponent. -/
theorem exponent_lt_of_worth {m : Nat} {e c : Int} (hm : 2 ^ 52 ≤ m) (h : worth m e < 2 ^ (52 + c)) :
    e < c := by
  have := (two_pow_le_worth (e := e) hm).trans_lt h
  rw [zpow_lt_zpow_iff_right₀ (by norm_num)] at this
  omega

/-- Below the largest power, rounding gives a double of 53 bits. -/
theorem isNormal_packed (s : Sign) {m : Nat} {e : Int} (a : Accuracy) (hm : 2 ^ 52 ≤ m)
    (he : -1074 ≤ m.log2 + e - 52) (hworth : worth m e * slack < 2 ^ (1024 : Int)) :
    IsNormal (packed (roundWithAccuracy Format.binary64 s m e a)) (m.log2 + e - 52)
      (worth m e * slack) := by
  obtain ⟨m', e', hpos, hround, hm', hlt, hlo, hle⟩ := round_normal s a hm he
  have hhi : e' < 972 := exponent_lt_of_worth hm' (hle.trans_lt hworth)
  obtain ⟨s', hpos', hunpack⟩ :=
    unpack_packed (s := s) (e := e') (h := hpos) hm' hlt (by omega) (by omega)
  rw [hround]
  exact ⟨s', m', e', hpos', hunpack, hm', hlt, hlo, hle⟩

theorem worth_zero (m : Nat) : worth m 0 = m := by simp [worth]

theorem slack_pos : 0 < slack := by norm_num [slack]

theorem log2_shiftLeft {n : Nat} (hn : 0 < n) (k : Nat) : (n <<< k).log2 = n.log2 + k := by
  rw [Nat.shiftLeft_eq]
  induction k with
  | zero => simp
  | succ k ih =>
    rw [Nat.pow_succ', Nat.mul_left_comm, Nat.log2_two_mul (by positivity), ih]
    omega

theorem IsNormal.mono {x : Float} {lo lo' : Int} {v v' : ℚ} (h : IsNormal x lo v) (hlo : lo' ≤ lo)
    (hv : v ≤ v') : IsNormal x lo' v' := by
  obtain ⟨s, m, e, hpos, hunpack, hm, hlt, he, hworth⟩ := h
  exact ⟨s, m, e, hpos, hunpack, hm, hlt, hlo.trans he, hworth.trans hv⟩

/-- A whole number of 64 bits as a double. -/
theorem isNormal_toFloat {n : UInt64} (hn : 0 < n.toNat) :
    IsNormal n.toFloat (-52) (n.toNat * slack) := by
  have hlt : n.toNat.log2 < 64 := (Nat.log2_lt hn.ne').mpr n.toNat_lt
  have hcompare : compare (n.toNat : Int) 0 = .gt := by
    rw [Int.compare_eq_gt]
    exact_mod_cast hn
  have hround : n.toFloat = packed (roundWithAccuracy Format.binary64 .positive
      (n.toNat <<< (52 - n.toNat.log2)) (-((52 - n.toNat.log2 : Nat) : Int)) .exact) := by
    have hshift : ((0 : Int) - max ((n.toNat.log2 : Int) + 0 - 52) (-1074)).toNat =
        52 - n.toNat.log2 := by omega
    show packed (UnpackedFloat.ofNat Format.binary64 n.toNat) = _
    rw [UnpackedFloat.ofNat, UnpackedFloat.ofInt, UnpackedFloat.normalize, hcompare]
    dsimp only
    rw [Int.toNat_natCast, UnpackedFloat.round, targetExponent_eq, decreaseExponent]
    dsimp only
    rw [hshift, Int.zero_sub]
  have hlog := log2_shiftLeft hn (52 - n.toNat.log2)
  have hworth : worth (n.toNat <<< (52 - n.toNat.log2)) (-((52 - n.toNat.log2 : Nat) : Int)) =
      n.toNat := by
    rw [Nat.shiftLeft_eq, ← worth_add, Int.add_left_neg, worth_zero]
  rw [hround, ← hworth]
  refine (isNormal_packed .positive .exact ?_ ?_ ?_).mono ?_ le_rfl
  · refine (Nat.le_log2 ?_).mp ?_
    · rw [Nat.shiftLeft_eq]
      positivity
    · omega
  · omega
  · have hn64 : (n.toNat : ℚ) < 2 ^ 64 := by exact_mod_cast n.toNat_lt
    rw [hworth]
    calc (n.toNat : ℚ) * slack < 2 ^ (65 : Int) := by
          rw [slack]
          norm_num
          linarith
      _ ≤ 2 ^ (1024 : Int) := zpow_le_zpow_right₀ (by norm_num) (by norm_num)
  · omega

end Playpen.Decimal
