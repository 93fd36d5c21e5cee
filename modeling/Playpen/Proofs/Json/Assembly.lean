import Playpen.Json.Cursor
import Playpen.Proofs.Decimal.Rounding
import Playpen.Proofs.Decimal.Shortest

/-!
# The double that digits are put together to

A reader of numbers multiplies or divides a whole number by powers of ten, in
arithmetic of doubles.  What it comes to is finite (`isReal_assemble`), and it
comes to something unless the number is too large (`isSome_assemble`): up to a
bound below the range of doubles, since every step may round upwards.  The
shortest digits of a double are within that bound, but for the six largest
doubles (`isSome_assemble_shortest`).
-/

namespace Playpen.Json.Reader

open Decimal
open Float.Model (Format totalExponent UnpackedFloat)
open Float.Model.UnpackedFloat

/-! ## Steps -/

theorem power10_eq (n : Nat) :
    power10 n = packed (UnpackedFloat.ofScientific Format.binary64 1 n) := by
  by_cases hn : n < 23
  · have hsmall : ∀ n < 23, power10 n = packed (UnpackedFloat.ofScientific Format.binary64 1 n) := by
      decide +kernel
    exact hsmall n hn
  · rw [power10, Float.ofScientific, dif_neg (by omega)]
    rfl

/-- A power of ten as a double. -/
theorem isNormal_power10 {n : Nat} (hn : n ≤ 308) : IsNormal (power10 n) (-52) (10 ^ n * slack) := by
  have hround : power10 n = packed (roundWithAccuracy Format.binary64 (.positive * .positive)
      (2 ^ 53 * 10 ^ n) (-53) .exact) := by
    rw [power10_eq, UnpackedFloat.ofScientific, dif_neg (by decide), if_neg, if_neg, if_pos]
    · rfl
    · omega
    · show ¬(n : Int) < -(2048 + _)
      omega
    · show ¬(n : Int) > 2048
      omega
  have hlog : 53 ≤ (2 ^ 53 * 10 ^ n).log2 := by
    rw [Nat.le_log2 (by positivity)]
    exact Nat.le_mul_of_pos_right _ (by positivity)
  have hworth : worth (2 ^ 53 * 10 ^ n) (-53) = 10 ^ n := by
    have htwo : (2 : ℚ) ^ (53 : Nat) * 2 ^ (-53 : Int) = 1 := by norm_num
    rw [worth, Nat.cast_mul, Nat.cast_pow, Nat.cast_pow, mul_right_comm]
    push_cast
    rw [htwo, one_mul]
  rw [hround, ← hworth]
  refine (isNormal_packed _ .exact ?_ ?_ ?_).mono ?_ le_rfl
  · exact (Nat.le_log2 (by positivity)).mp (by omega)
  · omega
  · have hnat : 10 ^ 308 * (2 ^ 52 + 1) < 2 ^ 1024 * 2 ^ 52 := by decide +kernel
    have hcast : (10 : ℚ) ^ 308 * (2 ^ 52 + 1) < 2 ^ 1024 * 2 ^ 52 := by exact_mod_cast hnat
    have hpow : (10 : ℚ) ^ n ≤ 10 ^ 308 := pow_le_pow_right₀ (by norm_num) hn
    rw [hworth]
    calc (10 : ℚ) ^ n * slack ≤ 10 ^ 308 * slack := by
          have := slack_pos
          gcongr
      _ = 10 ^ 308 * (2 ^ 52 + 1) / 2 ^ 52 := by
          rw [slack]
          generalize (10 : ℚ) ^ 308 = v
          ring
      _ < 2 ^ 1024 := by
          rw [div_lt_iff₀ (by positivity)]
          exact hcast
      _ = 2 ^ (1024 : Int) := (zpow_natCast 2 1024).symm
  · omega

theorem worth_mul (m m' : Nat) (e e' : Int) : worth (m * m') (e + e') = worth m e * worth m' e' := by
  rw [worth, worth, worth, zpow_add₀ two_ne_zero]
  push_cast
  ring

theorem worth_nonneg (m : Nat) (e : Int) : 0 ≤ worth m e :=
  mul_nonneg (Nat.cast_nonneg m) (zpow_nonneg (by norm_num) e)

theorem isNormal_mul {x y : Float} {v w : ℚ} (hx : IsNormal x (-52) v) (hy : IsNormal y (-52) w)
    (h : v * w * slack < 2 ^ (1024 : Int)) : IsNormal (x * y) (-52) (v * w * slack) := by
  obtain ⟨s, m, e, hpos, hunpack, hm, -, he, hv⟩ := hx
  obtain ⟨s', m', e', hpos', hunpack', hm', -, he', hw⟩ := hy
  have hround : x * y =
      packed (roundWithAccuracy Format.binary64 (s * s') (m * m') (e + e') .exact) := by
    show packed (UnpackedFloat.mul Format.binary64 x.toModel.unpack y.toModel.unpack) = _
    rw [hunpack, hunpack']
    rfl
  have hmm : 2 ^ 104 ≤ m * m' := by
    rw [show 104 = 52 + 52 from rfl, Nat.pow_add]
    exact Nat.mul_le_mul hm hm'
  have hlog : 104 ≤ (m * m').log2 := (Nat.le_log2 (by positivity)).mpr hmm
  have hworth : worth (m * m') (e + e') * slack ≤ v * w * slack := by
    have := slack_pos
    have hm0 := worth_nonneg m e
    have hm0' := worth_nonneg m' e'
    rw [worth_mul]
    gcongr
    exact hm0.trans hv
  rw [hround]
  exact (isNormal_packed _ .exact (by omega) (by omega) (hworth.trans_lt h)).mono (by omega) hworth

theorem isReal_mul {z w : UnpackedFloat} (hz : IsReal z) (hw : IsReal w) :
    IsReal (UnpackedFloat.mul Format.binary64 z w) := by
  cases hz with
  | zero s =>
    cases hw with
    | zero s' => exact .zero _
    | finite s' m' e' h' => exact .zero _
  | finite s m e h =>
    cases hw with
    | zero s' => exact .zero _
    | finite s' m' e' h' => exact isReal_roundWithAccuracy ..

/-- A whole number of 64 bits as a double is far below the largest one. -/
theorem within_toFloat (n : UInt64) : Within 12 n.toFloat.toModel.unpack := by
  rcases Nat.eq_zero_or_pos n.toNat with hzero | hpos
  · have hn : n = 0 := UInt64.toNat_inj.mp hzero
    have hpacked : (0 : UInt64).toFloat = packed (.zero .positive) := by decide +kernel
    rw [hn, hpacked]
    exact within_packed (.zero _) (by decide) (by decide)
  · obtain ⟨s, m, e, hm0, hunpack, hm, hlt, -, hworth⟩ := isNormal_toFloat hpos
    have hn64 : (n.toNat : ℚ) < 2 ^ 64 := by exact_mod_cast n.toNat_lt
    have he : e < 13 := by
      refine exponent_lt_of_worth hm (hworth.trans_lt ?_)
      rw [slack]
      norm_num
      linarith
    rw [hunpack]
    exact .finite s m e hm0 hlt (by omega)

/-- A quotient by a double that is not small. -/
theorem within_div {x p : Float} {b : Int} {v : ℚ} (hx : Within b x.toModel.unpack)
    (hp : IsNormal p (-52) v) (hlo : -1074 ≤ b) (hhi : b + 53 ≤ 971) :
    Within (b + 53) (x / p).toModel.unpack := by
  obtain ⟨s', m', e', hpos', hunpack', hm', -, he', -⟩ := hp
  have hdiv : x / p =
      packed (UnpackedFloat.div Format.binary64 x.toModel.unpack p.toModel.unpack) := rfl
  rw [hdiv, hunpack']
  refine within_packed ?_ (by omega) hhi
  generalize x.toModel.unpack = z at hx
  cases hx with
  | zero s => exact .zero _
  | finite s m e hpos hm he =>
    have hquotient : UnpackedFloat.div Format.binary64 (.finite s m e hpos) (.finite s' m' e' hpos') =
        let q := divCore Format.binary64 m e m' e'
        roundWithAccuracy Format.binary64 (s / s') q.1 q.2.1 q.2.2 := rfl
    rw [hquotient, divCore]
    dsimp only
    generalize Format.binary64.targetExponent (totalExponent m e - totalExponent m' e') = t
    generalize hsh : (e - e' - min (e - e') t).toNat = k
    have hlog : (m <<< k / m').log2 ≤ k := by
      have hlt : m <<< k / m' < 2 ^ (k + 1) := by
        rw [Nat.div_lt_iff_lt_mul hpos', Nat.shiftLeft_eq]
        calc m * 2 ^ k < 2 ^ 53 * 2 ^ k := Nat.mul_lt_mul_of_pos_right hm (Nat.two_pow_pos k)
          _ = 2 ^ (k + 1) * 2 ^ 52 := by ring
          _ ≤ 2 ^ (k + 1) * m' := Nat.mul_le_mul_left _ hm'
      by_cases hzero : m <<< k / m' = 0
      · rw [hzero]
        exact Nat.zero_le k
      · exact Nat.lt_succ_iff.mp ((Nat.log2_lt hzero).mpr hlt)
    have := within_roundWithAccuracy (s / s') (m := m <<< k / m') (e := min (e - e') t) (c := b + 52)
      (accuracyOfFraction (m <<< k % m') m') (by omega) (by omega) (by omega)
    rwa [show b + 52 + 1 = b + 53 by omega] at this

theorem isReal_scaleDown {fuel n : Nat} {x : Float} {b : Int} (hx : Within b x.toModel.unpack)
    (hlo : -1074 ≤ b) (hhi : b + 53 * (fuel + 1) ≤ 971) :
    IsReal (scaleDown fuel x n).toModel.unpack := by
  induction fuel generalizing n x b with
  | zero => exact hx.isReal
  | succ fuel ih =>
    rw [scaleDown]
    split
    · rename_i hn
      exact (within_div hx (isNormal_power10 hn) hlo (by omega)).isReal
    · split
      · exact hx.isReal
      · exact ih (within_div hx (isNormal_power10 (Nat.le_refl 308)) hlo (by omega)) (by omega)
          (by push_cast at hhi; omega)

/-! ## Finite and in range -/

/-- What the digits of a number give is finite. -/
theorem isReal_assemble {significand : Nat} {exponent : Int} {y : Float}
    (h : assemble significand exponent = some y) : IsReal y.toModel.unpack := by
  have hx := within_toFloat significand.toUInt64
  unfold assemble at h
  dsimp only at h
  split at h
  · split at h
    · split at h
      · cases h
      · rename_i he hinf
        cases h
        have hp := (isNormal_power10 (n := exponent.toNat) (by omega)).isReal
        exact (within_unpack (isFinite_packed_of_not_isInf (isReal_mul hx.isReal hp)
          (Bool.eq_false_iff.mpr hinf))).isReal
    · split at h
      · cases h
        exact hx.isReal
      · cases h
  · cases h
    exact isReal_scaleDown hx (by decide) (by decide)

/-- What digits and a power of ten may come to without being out of range, when
both they and their product are rounded upwards. -/
def ceiling : Nat := (2 ^ 54 - 13) * 2 ^ 970

theorem le_of_le_ceiling {significand n : Nat} (hpos : 0 < significand)
    (h : significand * 10 ^ n ≤ ceiling) : n ≤ 308 := by
  by_contra hn
  have hceiling : ceiling < 10 ^ 309 := by decide +kernel
  have hpow : 10 ^ 309 ≤ 10 ^ n := pow_le_pow_right₀ (by decide) (by omega)
  have hle : 10 ^ n ≤ significand * 10 ^ n := Nat.le_mul_of_pos_left _ hpos
  exact absurd (hceiling.trans_le (hpow.trans (hle.trans h))) (Nat.lt_irrefl ceiling)

/-- Three roundings upwards stay below the end of the range. -/
theorem mul_slack_lt {significand n : Nat} (h : significand * 10 ^ n ≤ ceiling) :
    (significand * slack) * (10 ^ n * slack) * slack < (2 : ℚ) ^ (1024 : Int) := by
  have hcast : ((2 : ℚ) ^ 54 - 13) * slack ^ 3 < 2 ^ 54 := by
    rw [slack]
    norm_num
  have hle : (significand : ℚ) * 10 ^ n ≤ (2 ^ 54 - 13) * 2 ^ 970 := by
    have : (significand * 10 ^ n : ℚ) ≤ (ceiling : Nat) := by exact_mod_cast h
    refine this.trans (le_of_eq ?_)
    have hfactor : ((2 ^ 54 - 13 : Nat) : ℚ) = 2 ^ 54 - 13 := by norm_num
    rw [ceiling, Nat.cast_mul, hfactor, Nat.cast_pow, Nat.cast_ofNat]
  have hslack := slack_pos
  calc (significand * slack) * (10 ^ n * slack) * slack
      = significand * 10 ^ n * slack ^ 3 := by ring
    _ ≤ (2 ^ 54 - 13) * 2 ^ 970 * slack ^ 3 := by gcongr
    _ = (2 ^ 54 - 13) * slack ^ 3 * 2 ^ 970 := mul_right_comm _ _ _
    _ < 2 ^ 54 * 2 ^ 970 := by gcongr
    _ = 2 ^ (1024 : Int) := by rw [← pow_add]; rfl

theorem isReal_zero_mul {p : Float} (hp : IsReal p.toModel.unpack) :
    IsReal ((Nat.toUInt64 0).toFloat * p).toModel.unpack := by
  have hzero : ∃ s, (Nat.toUInt64 0).toFloat.toModel.unpack = .zero s := by
    have hkind : (match (Nat.toUInt64 0).toFloat.toModel.unpack with
      | .zero _ => true
      | _ => false) = true := by decide +kernel
    split at hkind
    · exact ⟨_, ‹_›⟩
    · cases hkind
  obtain ⟨s, hzero⟩ := hzero
  have hmul : (Nat.toUInt64 0).toFloat * p =
      packed (UnpackedFloat.mul Format.binary64 (.zero s) p.toModel.unpack) := by
    rw [← hzero]
    rfl
  have hwithin : Within 0 (UnpackedFloat.mul Format.binary64 (.zero s) p.toModel.unpack) := by
    generalize p.toModel.unpack = z at hp
    cases hp with
    | zero s' => exact .zero _
    | finite s' m' e' h' => exact .zero _
  rw [hmul]
  exact (within_packed hwithin (by decide) (by decide)).isReal

theorem isSome_assemble {significand : Nat} {exponent : Int} (hlt : significand < 2 ^ 64)
    (h : 0 ≤ exponent → significand * 10 ^ exponent.toNat ≤ ceiling) :
    (assemble significand exponent).isSome = true := by
  have htoNat : significand.toUInt64.toNat = significand := by
    rw [UInt64.toNat_ofNat']
    omega
  unfold assemble
  dsimp only
  by_cases hexp : exponent ≥ 0
  · rw [if_pos hexp]
    rcases Nat.eq_zero_or_pos significand with hzero | hpos
    · have hbeq : ((Nat.toUInt64 0).toFloat == 0.0) = true := by decide +kernel
      have hinf : ∀ p : Float, IsReal p.toModel.unpack →
          ((Nat.toUInt64 0).toFloat * p).isInf = false := fun p hp =>
        isInf_of_isReal (isReal_zero_mul hp)
      rw [hzero]
      split
      · rw [if_neg]
        · rfl
        · exact Bool.eq_false_iff.mp (hinf _ (isNormal_power10 (by omega)).isReal)
      · rfl
    · have hn : exponent.toNat ≤ 308 := le_of_le_ceiling hpos (h hexp)
      rw [if_pos (by omega), if_neg]
      · rfl
      · refine Bool.eq_false_iff.mp (isInf_of_isReal ?_)
        have hx := isNormal_toFloat (n := significand.toUInt64) (by omega)
        rw [htoNat] at hx
        exact (isNormal_mul hx (isNormal_power10 hn) (mul_slack_lt (h hexp))).isReal
  · rw [if_neg hexp]
    rfl

/-! ## Shortest digits -/

/-- The largest doubles. -/
def largest (i : Nat) : Binary := ⟨2 ^ 53 - 1 - i, 971⟩

theorem isSome_assemble_largest : ∀ i < 6, (shortest (largest i)).digits < 2 ^ 64 ∧
    (assemble (shortest (largest i)).digits (shortest (largest i)).exponent).isSome = true := by
  decide +kernel

theorem le_ceiling {b : Binary} (hm : b.m < 2 ^ 53) (hq : b.q ≤ 971)
    (hlarge : b.q = 971 → b.m + 7 ≤ 2 ^ 53) : (4 * b.m + 2) * 2 ^ (b.q - 2).toNat ≤ ceiling := by
  rcases Int.lt_or_le b.q 971 with hlt | hle
  · have hpow : 2 ^ (b.q - 2).toNat ≤ 2 ^ 968 := pow_le_pow_right₀ (by decide) (by omega)
    have hmantissa : 4 * b.m + 2 ≤ 2 ^ 55 - 2 := by omega
    calc (4 * b.m + 2) * 2 ^ (b.q - 2).toNat ≤ (2 ^ 55 - 2) * 2 ^ 968 := Nat.mul_le_mul hmantissa hpow
      _ ≤ (2 ^ 54 - 13) * 2 ^ 2 * 2 ^ 968 := Nat.mul_le_mul_right _ (by decide)
      _ = ceiling := by rw [ceiling, show 970 = 2 + 968 from rfl, Nat.pow_add, Nat.mul_assoc]
  · have hq971 : b.q = 971 := by omega
    have hexp : (b.q - 2).toNat = 969 := by omega
    have hmantissa : 4 * b.m + 2 ≤ (2 ^ 54 - 13) * 2 ^ 1 := by
      have := hlarge hq971
      omega
    rw [hexp]
    calc (4 * b.m + 2) * 2 ^ 969 ≤ (2 ^ 54 - 13) * 2 ^ 1 * 2 ^ 969 := Nat.mul_le_mul_right _ hmantissa
      _ = ceiling := by rw [ceiling, show 970 = 1 + 969 from rfl, Nat.pow_add, Nat.mul_assoc]

/-- The shortest digits of a double, or as many of them as fit, are in range. -/
theorem isSome_assemble_shortest {b : Binary} (hm : b.m < 2 ^ 53) (hq : b.q ≤ 971) {s j : Nat}
    (hs : s < 2 ^ 64) (hfirst : s * 10 ^ j ≤ (shortest b).digits)
    (hwhole : (shortest b).digits < 2 ^ 64 → s = (shortest b).digits ∧ j = 0) :
    (assemble s ((shortest b).exponent + j)).isSome = true := by
  by_cases hlarge : b.q = 971 → b.m + 7 ≤ 2 ^ 53
  · refine isSome_assemble hs fun hexp => ?_
    exact (first_shortest_le hfirst (Int.toNat_of_nonneg hexp)).trans (le_ceiling hm hq hlarge)
  · -- the bound is not good enough for the last six doubles
    obtain ⟨hq971, hm7⟩ := Classical.not_imp.mp hlarge
    have hb : b = largest (2 ^ 53 - 1 - b.m) := by
      obtain ⟨m, q⟩ := b
      rw [largest, Binary.mk.injEq]
      exact ⟨by dsimp only at hm ⊢; omega, hq971⟩
    obtain ⟨hdigits, hsome⟩ := isSome_assemble_largest (2 ^ 53 - 1 - b.m) (by omega)
    rw [← hb] at hdigits hsome
    obtain ⟨rfl, rfl⟩ := hwhole hdigits
    rwa [Nat.cast_zero, Int.add_zero]

/-- A double is below `10^309`. -/
theorem exponent_shortest_le {b : Binary} (hm : b.m < 2 ^ 53) (hq : b.q ≤ 971) {j : Nat}
    (hj : 10 ^ j ≤ (shortest b).digits) : (shortest b).exponent + j ≤ 308 := by
  by_contra hlarge
  have hfirst : 1 * 10 ^ j ≤ (shortest b).digits := by rwa [Nat.one_mul]
  have hle := first_shortest_le hfirst (Int.toNat_of_nonneg (by omega))
  generalize hn : ((shortest b).exponent + j).toNat = n at hle
  have hpow : 10 ^ 309 ≤ 10 ^ n := pow_le_pow_right₀ (by decide) (by omega)
  have hmantissa : 4 * b.m + 2 ≤ 2 ^ 55 := by omega
  have hexp : 2 ^ (b.q - 2).toNat ≤ 2 ^ 969 := pow_le_pow_right₀ (by decide) (by omega)
  have htop : 2 ^ 55 * 2 ^ 969 < 10 ^ 309 := by decide +kernel
  rw [Nat.one_mul] at hle
  exact absurd (hpow.trans (hle.trans (Nat.mul_le_mul hmantissa hexp))) (Nat.not_le.mpr htop)

end Playpen.Json.Reader
