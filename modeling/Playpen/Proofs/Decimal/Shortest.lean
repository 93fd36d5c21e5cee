import Playpen.Decimal.Double
import Mathlib.Tactic.Ring
import Mathlib.Tactic.Positivity

/-!
# How large the shortest digits are

The shortest digits of a double stay within the reals that are read back as it.
Of that interval only the upper end matters here: a decimal is bounded by a
fraction (`Scaled.AtMost`), in whole numbers, and so are the decimals that are
made of its first digits.
-/

namespace Playpen.Decimal

/-- The decimal is at most the fraction. -/
def Scaled.AtMost (d : Scaled) (num den : Nat) : Prop :=
  d.digits * 10 ^ d.exponent.toNat * den ≤ num * 10 ^ (-d.exponent).toNat

namespace Scaled

variable {d : Scaled} {num den : Nat}

theorem atMost_zero (k : Int) (num den : Nat) : AtMost ⟨0, k⟩ num den := by
  unfold AtMost
  simp

/-- A zero at the end of the digits stands for one more in the exponent. -/
theorem AtMost.shift {k : Int} {digits : Nat} (h : AtMost ⟨10 * digits, k⟩ num den) :
    AtMost ⟨digits, k + 1⟩ num den := by
  unfold AtMost at h ⊢
  dsimp only at h ⊢
  rcases Int.lt_or_le k 0 with hk | hk
  · -- the power of ten stands on the right, where one factor is taken from both sides
    obtain ⟨n, rfl⟩ : ∃ n : Nat, k = -(n + 1 : Nat) := ⟨(-k).toNat - 1, by omega⟩
    have hup : (-((n + 1 : Nat) : Int)).toNat = 0 := by omega
    have hdown : (-(-((n + 1 : Nat) : Int))).toNat = n + 1 := by omega
    have hup' : (-((n + 1 : Nat) : Int) + 1).toNat = 0 := by omega
    have hdown' : (-(-((n + 1 : Nat) : Int) + 1)).toNat = n := by omega
    rw [hup, hdown] at h
    rw [hup', hdown']
    refine Nat.le_of_mul_le_mul_left ?_ (show 0 < 10 by decide)
    calc 10 * (digits * 10 ^ 0 * den) = 10 * digits * 10 ^ 0 * den := by ring
      _ ≤ num * 10 ^ (n + 1) := h
      _ = 10 * (num * 10 ^ n) := by ring
  · obtain ⟨n, rfl⟩ := Int.eq_ofNat_of_zero_le hk
    have hdown : (-(n : Int)).toNat = 0 := by omega
    have hdown' : (-((n : Int) + 1)).toNat = 0 := by omega
    have hup : ((n : Int) + 1).toNat = n + 1 := by omega
    rw [Int.toNat_natCast, hdown] at h
    rw [hup, hdown']
    calc digits * 10 ^ (n + 1) * den = 10 * digits * 10 ^ n * den := by ring
      _ ≤ num * 10 ^ 0 := h

theorem AtMost.strip (h : d.AtMost num den) (n : Nat) : (d.strip n).AtMost num den := by
  induction n generalizing d with
  | zero => exact h
  | succ n ih =>
    rw [Scaled.strip]
    split
    · rename_i hzero
      refine ih (AtMost.shift ?_)
      rwa [Nat.mul_div_cancel' (Nat.dvd_of_mod_eq_zero hzero.2)]
    · exact h

/-- The first digits of a decimal, taken for a whole number, stay below its bound. -/
theorem AtMost.first {s j n : Nat} (h : d.AtMost num den) (hs : s * 10 ^ j ≤ d.digits)
    (hn : (n : Int) = d.exponent + j) : s * 10 ^ n * den ≤ num := by
  unfold AtMost at h
  rcases Int.lt_or_le d.exponent 0 with hk | hk
  · have hup : d.exponent.toNat = 0 := by omega
    obtain ⟨k, hdown⟩ : ∃ k, (-d.exponent).toNat = k := ⟨_, rfl⟩
    have hj : j = n + k := by omega
    rw [hup, hdown, Nat.pow_zero, Nat.mul_one] at h
    refine Nat.le_of_mul_le_mul_right ?_ (show 0 < 10 ^ k by positivity)
    calc s * 10 ^ n * den * 10 ^ k = s * 10 ^ j * den := by rw [hj]; ring
      _ ≤ d.digits * den := Nat.mul_le_mul_right den hs
      _ ≤ num * 10 ^ k := h
  · have hdown : (-d.exponent).toNat = 0 := by omega
    have hup : n = d.exponent.toNat + j := by omega
    rw [hdown, Nat.pow_zero, Nat.mul_one] at h
    calc s * 10 ^ n * den = s * 10 ^ j * 10 ^ d.exponent.toNat * den := by rw [hup]; ring
      _ ≤ d.digits * 10 ^ d.exponent.toNat * den := by gcongr
      _ ≤ num := h

end Scaled

theorem Rounding.atMost_of_holds {r : Rounding} {d : Nat} {k : Int} (h : r.holds d k = true) :
    Scaled.AtMost ⟨d, k⟩ r.high r.den := by
  unfold Rounding.holds scale10 at h
  unfold Scaled.AtMost
  dsimp only
  have hend : ∀ n t : Nat, (if r.closed then decide (r.low * t ≤ n * r.den ∧ n * r.den ≤ r.high * t)
      else decide (r.low * t < n * r.den ∧ n * r.den < r.high * t)) = true →
      n * r.den ≤ r.high * t := by
    intro n t ht
    split at ht
    · exact (of_decide_eq_true ht).2
    · exact (of_decide_eq_true ht).2.le
  rcases Int.lt_or_le k 0 with hk | hk
  · rw [if_neg (by omega)] at h
    have hup : k.toNat = 0 := by omega
    have := hend _ _ h
    rw [hup]
    simpa using this
  · rw [if_pos hk] at h
    have hdown : (-k).toNat = 0 := by omega
    have := hend _ _ h
    rw [hdown]
    simpa using this

/-- The search ends on a grid point that is read back, or without one. -/
theorem shortestFrom_cases (r : Rounding) (point : Int) (fuel n : Nat) :
    shortestFrom r point fuel n = ⟨0, 0⟩ ∨
      r.holds (shortestFrom r point fuel n).digits (shortestFrom r point fuel n).exponent = true := by
  induction fuel generalizing n with
  | zero => exact .inl rfl
  | succ fuel ih =>
    rw [shortestFrom]
    dsimp only
    split
    · rename_i hboth
      obtain ⟨hlow, hhigh⟩ := Bool.and_eq_true_iff.mp hboth
      split
      · exact .inr hlow
      · exact .inr hhigh
    split
    · exact .inr ‹_›
    split
    · exact .inr ‹_›
    · exact ih (n + 1)

/-- Zero is read back as no other value. -/
theorem Rounding.holds_zero {r : Rounding} (hlow : 0 < r.low) (k : Int) : r.holds 0 k = false := by
  obtain ⟨t, ht, hscale⟩ : ∃ t, 0 < t ∧ scale10 0 1 k = (0, t) := by
    unfold scale10
    split
    · exact ⟨1, Nat.one_pos, by rw [Nat.zero_mul]⟩
    · exact ⟨_, Nat.mul_pos Nat.one_pos (Nat.pow_pos (by decide)), rfl⟩
  have hpos : 0 < r.low * t := Nat.mul_pos hlow ht
  unfold Rounding.holds
  rw [hscale]
  dsimp only
  rw [Nat.zero_mul]
  split
  · exact decide_eq_false fun h => absurd h.1 (Nat.not_le.mpr hpos)
  · exact decide_eq_false fun h => absurd h.1 (Nat.not_lt_zero _)

theorem Binary.rounding_low_pos {b : Binary} (hm : b.m ≠ 0) : 0 < b.rounding.low := by
  have hbelow : (if b.m = Nat.pow 2 52 ∧ b.q > -1074 then 1 else 2) ≤ 2 := by split <;> omega
  exact Nat.mul_pos (by omega) (Nat.pow_pos (by decide))

theorem Scaled.strip_zero (n : Nat) (k : Int) : Scaled.strip n ⟨0, k⟩ = ⟨0, k⟩ := by
  cases n with
  | zero => rfl
  | succ n => rfl

theorem Scaled.strip_digits_ne_zero {d : Scaled} (n : Nat) (h : d.digits ≠ 0) :
    (d.strip n).digits ≠ 0 := by
  induction n generalizing d with
  | zero => exact h
  | succ n ih =>
    rw [Scaled.strip]
    split
    · exact ih (by dsimp only; omega)
    · exact h

/-- There are no digits but zero only where none were found. -/
theorem shortest_eq_zero {b : Binary} (h : (shortest b).digits = 0) : shortest b = ⟨0, 0⟩ := by
  unfold shortest at h ⊢
  split
  · rfl
  · rename_i hm
    rw [if_neg hm] at h
    dsimp only at h ⊢
    generalize magnitude b.rounding.value b.rounding.den = point at h ⊢
    rcases shortestFrom_cases b.rounding point 18 1 with heq | hholds
    · rw [heq, Scaled.strip_zero]
    · have hdigits : (shortestFrom b.rounding point 18 1).digits ≠ 0 := by
        intro hzero
        rw [hzero, Rounding.holds_zero (Binary.rounding_low_pos hm)] at hholds
        cases hholds
      exact absurd h (Scaled.strip_digits_ne_zero 20 hdigits)

theorem atMost_shortest (b : Binary) : (shortest b).AtMost b.rounding.high b.rounding.den := by
  unfold shortest
  split
  · exact Scaled.atMost_zero _ _ _
  · refine Scaled.AtMost.strip ?_ 20
    generalize magnitude b.rounding.value b.rounding.den = point
    rcases shortestFrom_cases b.rounding point 18 1 with heq | hholds
    · rw [heq]
      exact Scaled.atMost_zero _ _ _
    · exact Rounding.atMost_of_holds hholds

/-- The first digits of the shortest ones, taken for a whole number. -/
theorem first_shortest_le {b : Binary} {s j n : Nat} (hs : s * 10 ^ j ≤ (shortest b).digits)
    (hn : (n : Int) = (shortest b).exponent + j) :
    s * 10 ^ n ≤ (4 * b.m + 2) * 2 ^ (b.q - 2).toNat := by
  have h := (atMost_shortest b).first hs hn
  have hden : 0 < b.rounding.den := Nat.pow_pos (by decide)
  calc s * 10 ^ n ≤ s * 10 ^ n * b.rounding.den := Nat.le_mul_of_pos_right _ hden
    _ ≤ (4 * b.m + 2) * 2 ^ (b.q - 2).toNat := h

end Playpen.Decimal
