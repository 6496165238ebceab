import Mathlib.Algebra.Order.Archimedean.Basic
import Mathlib.Algebra.Order.Field.Power
import Mathlib.Tactic.FieldSimp
import RegexInference.Proofs.Float.Value

/-!
# Rounding

An exact result is cut off at some exponent; two further bits say how much was cut.  Rounding takes
the mantissa up or down by them.  The outcome is a number nearest to the exact result among all that
have a mantissa of 53 bits, and this is all that bounds on results ever need: a bound that is such a
number itself survives rounding.
-/

namespace RegexInference.Binary64

open Float.Model Float.Model.UnpackedFloat

/-! ## Nearest numbers -/

theorem Representable.neg {x : ℝ} (h : Representable x) : Representable (-x) := by
  unfold Representable
  rwa [abs_neg]

theorem representable_zero : Representable 0 := ⟨0, 0, by norm_num, by norm_num, by simp⟩

theorem representable_pow {e : ℤ} (he : -1074 ≤ e) : Representable ((2 : ℝ) ^ e) :=
  ⟨1, e, by norm_num, he, by rw [abs_of_pos (by positivity)]; simp⟩

/-- Mantissas may as well reach the next power of two. -/
theorem representable_of_le {m : ℕ} {e : ℤ} (hm : m ≤ 2 ^ 53) (he : -1074 ≤ e) :
    Representable (m * (2 : ℝ) ^ e) := by
  rcases Nat.lt_or_eq_of_le hm with hlt | rfl
  · exact ⟨m, e, hlt, he, abs_of_nonneg (by positivity)⟩
  · refine ⟨2 ^ 52, e + 1, by norm_num, by omega, ?_⟩
    rw [abs_of_nonneg (by positivity), zpow_add₀ (by norm_num : (2 : ℝ) ≠ 0)]
    push_cast
    ring

theorem Representable.mul_pow {x : ℝ} (h : Representable x) (k : ℕ) : Representable (x * 2 ^ k) := by
  obtain ⟨m, e, hm, he, hx⟩ := h
  refine ⟨m, e + k, hm, by omega, ?_⟩
  rw [abs_mul, hx, abs_of_pos (by positivity : (0 : ℝ) < 2 ^ k), zpow_add₀ (by norm_num),
    zpow_natCast, mul_assoc]

/-- A number nearest to `x` among those that can be represented. -/
structure IsNearest (x v : ℝ) : Prop where
  representable : Representable v
  le : ∀ y, Representable y → |v - x| ≤ |y - x|

namespace IsNearest

variable {x v b : ℝ}

theorem neg (h : IsNearest x v) : IsNearest (-x) (-v) where
  representable := h.representable.neg
  le := by
    intro y hy
    have := h.le (-y) hy.neg
    rw [← abs_neg (-v - -x), ← abs_neg (y - -x)]
    convert this using 2 <;> ring

/-- A bound that can be represented is kept. -/
theorem le_of_le (h : IsNearest x v) (hb : Representable b) (hxb : x ≤ b) : v ≤ b := by
  by_contra hlt
  have hle := h.le b hb
  rw [abs_of_nonneg (by linarith : (0 : ℝ) ≤ b - x),
    abs_of_nonneg (by linarith : (0 : ℝ) ≤ v - x)] at hle
  linarith

theorem ge_of_ge (h : IsNearest x v) (hb : Representable b) (hbx : b ≤ x) : b ≤ v := by
  have := h.neg.le_of_le hb.neg (neg_le_neg hbx)
  linarith

theorem abs_le_of_abs_le (h : IsNearest x v) (hb : Representable b) (hxb : |x| ≤ b) : |v| ≤ b := by
  obtain ⟨hlow, hhigh⟩ := abs_le.mp hxb
  exact abs_le.mpr ⟨h.ge_of_ge hb.neg hlow, h.le_of_le hb hhigh⟩

theorem eq_of_representable (h : IsNearest x v) (hx : Representable x) : v = x := by
  have := h.le x hx
  rw [sub_self, abs_zero] at this
  exact sub_eq_zero.mp (abs_eq_zero.mp (le_antisymm this (abs_nonneg _)))

/-- Rounding keeps the order. -/
theorem le_of_lt {y w : ℝ} (hx : IsNearest x v) (hy : IsNearest y w) (hxy : x < y) : v ≤ w := by
  by_contra hlt
  have hleft : (v - x) ^ 2 ≤ (w - x) ^ 2 := sq_le_sq.mpr (hx.le w hy.representable)
  have hright : (w - y) ^ 2 ≤ (v - y) ^ 2 := sq_le_sq.mpr (hy.le v hx.representable)
  have hcross : 0 < (v - w) * (y - x) :=
    mul_pos (sub_pos.mpr (not_le.mp hlt)) (sub_pos.mpr hxy)
  linarith

end IsNearest

theorem pow_eq_mul_zpow {n k : ℕ} {t : ℤ} (h : (n : ℤ) = k + t) :
    (2 : ℝ) ^ n = 2 ^ k * (2 : ℝ) ^ t := by
  rw [← zpow_natCast, ← zpow_natCast, ← zpow_add₀ (by norm_num), h]

theorem zpow_eq_pow_mul {t d : ℤ} (h : t ≤ d) :
    (2 : ℝ) ^ d = 2 ^ (d - t).toNat * (2 : ℝ) ^ t := by
  rw [← zpow_natCast, ← zpow_add₀ (by norm_num)]
  congr 1
  omega

/-- From one on, the number next below is not far away. -/
theorem exists_representable_le {x : ℝ} (hx : 1 ≤ x) :
    ∃ y, Representable y ∧ y ≤ x ∧ x - x / 2 ^ 52 ≤ y := by
  obtain ⟨k, hlow, hhigh⟩ := exists_nat_pow_near hx one_lt_two
  have hpos : (0 : ℝ) < (2 : ℝ) ^ (k - 52 : ℤ) := by positivity
  have hstep : (2 : ℝ) ^ k = 2 ^ 52 * (2 : ℝ) ^ (k - 52 : ℤ) := pow_eq_mul_zpow (by push_cast; ring)
  have hnext : (2 : ℝ) ^ (k + 1) = 2 ^ 53 * (2 : ℝ) ^ (k - 52 : ℤ) :=
    pow_eq_mul_zpow (by push_cast; ring)
  have hsmall : x / (2 : ℝ) ^ (k - 52 : ℤ) ≤ (2 ^ 53 : ℕ) := by
    rw [div_le_iff₀ hpos]
    push_cast
    linarith
  refine ⟨⌊x / (2 : ℝ) ^ (k - 52 : ℤ)⌋₊ * (2 : ℝ) ^ (k - 52 : ℤ),
    representable_of_le (Nat.floor_le_of_le hsmall) (by omega), ?_, ?_⟩
  · rw [← le_div_iff₀ hpos]
    exact Nat.floor_le (by positivity)
  · have hcut := Nat.lt_floor_add_one (x / (2 : ℝ) ^ (k - 52 : ℤ))
    rw [div_lt_iff₀ hpos] at hcut
    linarith

/-- From one on, rounding down does not lose much. -/
theorem IsNearest.ge_sub_div {x v : ℝ} (h : IsNearest x v) (hx : 1 ≤ x) : x - x / 2 ^ 52 ≤ v := by
  obtain ⟨y, hy, hle, hclose⟩ := exists_representable_le hx
  exact hclose.trans (h.ge_of_ge hy hle)

/-! ## Cutting off -/

/-- Where the exact result lies between a mantissa and the next one. -/
def Describes : Accuracy → ℝ → Prop
  | .exact, f => f = 0
  | .inexact .lt, f => 0 < f ∧ f + f < 1
  | .inexact .eq, f => f + f = 1
  | .inexact .gt, f => 1 < f + f ∧ f < 1

theorem Describes.eq_half {f : ℝ} (h : Describes (.inexact .eq) f) : f = 1 / 2 := by
  have h : f + f = 1 := h
  linarith

theorem Describes.bounds {accuracy : Accuracy} {f : ℝ} (h : Describes accuracy f) :
    0 ≤ f ∧ f < 1 := by
  cases accuracy with
  | exact =>
      obtain rfl : f = 0 := h
      norm_num
  | inexact o =>
      cases o with
      | lt => exact ⟨h.1.le, by linarith [h.2]⟩
      | eq =>
          rw [h.eq_half]
          norm_num
      | gt => exact ⟨by linarith [h.1], h.2⟩

/-- A mantissa and its two further bits stand for a number. -/
def Tracks (em : ExtendedMantissa) (y : ℝ) : Prop :=
  ∃ f, Describes em.accuracy f ∧ y = em.mantissa + f

theorem Tracks.mantissa_le {em : ExtendedMantissa} {y : ℝ} (h : Tracks em y) :
    (em.mantissa : ℝ) ≤ y := by
  obtain ⟨f, hf, rfl⟩ := h
  linarith [hf.bounds.1]

theorem tracks_ofMantissaAndAccuracy {m : ℕ} {accuracy : Accuracy} {f : ℝ}
    (h : Describes accuracy f) :
    Tracks (ExtendedMantissa.ofMantissaAndAccuracy m accuracy) (m + f) := by
  refine ⟨f, ?_, ?_⟩
  · cases accuracy with
    | exact => exact h
    | inexact o =>
        cases o with
        | lt | eq | gt => exact h
  · cases accuracy with
    | exact => rfl
    | inexact o =>
        cases o with
        | lt | eq | gt => rfl

theorem Describes.pos_iff {em : ExtendedMantissa} {f : ℝ} (h : Describes em.accuracy f) :
    0 < f ↔ (em.roundBit || em.stickyBit) = true := by
  obtain ⟨m, round, sticky⟩ := em
  cases round with
  | false =>
      cases sticky with
      | false =>
          obtain rfl : f = 0 := h
          simp
      | true => simpa using h.1
  | true =>
      cases sticky with
      | false =>
          rw [Describes.eq_half h]
          simp
      | true =>
          have : 1 < f + f := h.1
          simp only [Bool.or_self, iff_true]
          linarith

theorem Describes.eq_zero {em : ExtendedMantissa} {f : ℝ} (h : Describes em.accuracy f)
    (hbits : (em.roundBit || em.stickyBit) = false) : f = 0 := by
  have hpos := h.pos_iff
  rw [hbits] at hpos
  exact le_antisymm (not_lt.mp (by simpa using hpos)) h.bounds.1

/-- Shifting moves the last bit of the mantissa into the fraction. -/
theorem describes_shiftRightOne {em : ExtendedMantissa} {f : ℝ} (h : Describes em.accuracy f) :
    Describes em.shiftRightOne.accuracy (((em.mantissa % 2 : ℕ) + f) / 2) := by
  obtain ⟨hlow, hhigh⟩ := h.bounds
  unfold ExtendedMantissa.shiftRightOne
  rcases Nat.mod_two_eq_zero_or_one em.mantissa with hm | hm
  · rw [hm]
    cases hsticky : (em.roundBit || em.stickyBit) with
    | false =>
        change ((0 : ℕ) + f) / 2 = 0
        rw [h.eq_zero hsticky]
        norm_num
    | true =>
        have hpos := h.pos_iff.mpr hsticky
        change 0 < ((0 : ℕ) + f) / 2 ∧ ((0 : ℕ) + f) / 2 + ((0 : ℕ) + f) / 2 < 1
        push_cast
        constructor <;> linarith
  · rw [hm]
    cases hsticky : (em.roundBit || em.stickyBit) with
    | false =>
        change ((1 : ℕ) + f) / 2 + ((1 : ℕ) + f) / 2 = 1
        rw [h.eq_zero hsticky]
        norm_num
    | true =>
        have hpos := h.pos_iff.mpr hsticky
        change 1 < ((1 : ℕ) + f) / 2 + ((1 : ℕ) + f) / 2 ∧ ((1 : ℕ) + f) / 2 < 1
        push_cast
        constructor <;> linarith

theorem Tracks.shiftRightOne {em : ExtendedMantissa} {y : ℝ} (h : Tracks em y) :
    Tracks em.shiftRightOne (y / 2) := by
  obtain ⟨f, hf, rfl⟩ := h
  refine ⟨_, describes_shiftRightOne hf, ?_⟩
  have hmantissa : (em.mantissa : ℝ) = 2 * (em.mantissa / 2 : ℕ) + (em.mantissa % 2 : ℕ) := by
    exact_mod_cast (Nat.div_add_mod em.mantissa 2).symm
  change (em.mantissa + f) / 2 = ((em.mantissa / 2 : ℕ) : ℝ) + ((em.mantissa % 2 : ℕ) + f) / 2
  rw [hmantissa]
  ring

theorem shiftRight_succ (em : ExtendedMantissa) (n : ℕ) :
    em >>> (n + 1) = (em >>> n).shiftRightOne := rfl

theorem Tracks.shiftRight {em : ExtendedMantissa} {y : ℝ} (h : Tracks em y) (n : ℕ) :
    Tracks (em >>> n) (y / 2 ^ n) := by
  induction n with
  | zero =>
      rw [pow_zero, div_one]
      exact h
  | succ n ih =>
      rw [shiftRight_succ, pow_succ, ← div_div]
      exact ih.shiftRightOne

theorem mantissa_shiftRight (em : ExtendedMantissa) (n : ℕ) :
    (em >>> n).mantissa = em.mantissa / 2 ^ n := by
  induction n with
  | zero => exact (Nat.div_one _).symm
  | succ n ih =>
      rw [shiftRight_succ, pow_succ, ← Nat.div_div_eq_div_mul, ← ih]
      rfl

/-- The rounded mantissa is next to the number tracked, and no further away than one half. -/
theorem Tracks.roundedMantissa {em : ExtendedMantissa} {y : ℝ} (h : Tracks em y) :
    (em.roundedMantissa = em.mantissa ∨ em.roundedMantissa = em.mantissa + 1) ∧
      |(em.roundedMantissa : ℝ) - y| ≤ 1 / 2 := by
  obtain ⟨f, hf, rfl⟩ := h
  obtain ⟨hlow, hhigh⟩ := hf.bounds
  unfold ExtendedMantissa.roundedMantissa
  cases haccuracy : em.accuracy with
  | exact =>
      rw [haccuracy] at hf
      obtain rfl : f = 0 := hf
      simp [Accuracy.roundToNearestEven]
  | inexact o =>
      rw [haccuracy] at hf
      cases o with
      | lt =>
          refine ⟨Or.inl rfl, ?_⟩
          rw [Accuracy.roundToNearestEven, sub_add_cancel_left, abs_neg, abs_of_nonneg hlow]
          linarith [hf.2]
      | eq =>
          obtain rfl : f = 1 / 2 := hf.eq_half
          rw [Accuracy.roundToNearestEven]
          rcases Nat.mod_two_eq_zero_or_one em.mantissa with hm | hm
          · rw [hm]
            refine ⟨Or.inl rfl, ?_⟩
            rw [Nat.add_zero, sub_add_cancel_left, abs_neg, abs_of_nonneg (by norm_num)]
          · rw [hm]
            refine ⟨Or.inr rfl, ?_⟩
            push_cast
            rw [add_sub_add_left_eq_sub, abs_of_nonneg (by norm_num)]
            norm_num
      | gt =>
          refine ⟨Or.inr rfl, ?_⟩
          have := hf.1
          rw [Accuracy.roundToNearestEven]
          push_cast
          rw [add_sub_add_left_eq_sub, abs_of_nonneg (by linarith)]
          linarith

/-- Halfway between two mantissas it is the even one that is taken. -/
theorem Tracks.roundedMantissa_even {em : ExtendedMantissa} {y : ℝ} (h : Tracks em y)
    (htie : |(em.roundedMantissa : ℝ) - y| = 1 / 2) : em.roundedMantissa % 2 = 0 := by
  obtain ⟨f, hf, rfl⟩ := h
  unfold ExtendedMantissa.roundedMantissa at htie ⊢
  cases haccuracy : em.accuracy with
  | exact =>
      rw [haccuracy] at hf htie
      obtain rfl : f = 0 := hf
      rw [Accuracy.roundToNearestEven, add_zero, sub_self, abs_zero] at htie
      norm_num at htie
  | inexact o =>
      rw [haccuracy] at hf htie
      cases o with
      | lt =>
          rw [Accuracy.roundToNearestEven, sub_add_cancel_left, abs_neg, abs_of_pos hf.1] at htie
          linarith [hf.2]
      | eq =>
          rw [Accuracy.roundToNearestEven]
          omega
      | gt =>
          rw [Accuracy.roundToNearestEven] at htie
          push_cast at htie
          rw [add_sub_add_left_eq_sub, abs_of_pos (by linarith [hf.2])] at htie
          linarith [hf.1]

theorem shiftToExponent_eq (m : ℕ) (e t : ℤ) (accuracy : Accuracy) :
    shiftToExponent m e accuracy t =
      (ExtendedMantissa.ofMantissaAndAccuracy m accuracy >>> (t - e).toNat,
        e + ((t - e).toNat : ℤ)) := rfl

theorem mantissa_ofMantissaAndAccuracy (m : ℕ) (accuracy : Accuracy) :
    (ExtendedMantissa.ofMantissaAndAccuracy m accuracy).mantissa = m := by
  cases accuracy with
  | exact => rfl
  | inexact o =>
      cases o with
      | lt | eq | gt => rfl

/-- The exponent that a mantissa is cut off at. -/
def cutExponent (m : ℕ) (e : ℤ) : ℤ := max (m.log2 + e - 52) (-1074)

theorem targetExponent_eq (m : ℕ) (e : ℤ) :
    Format.binary64.targetExponent (totalExponent m e) = cutExponent m e := by
  have hbits : (Format.binary64.mantissaBits : ℤ) = 53 := rfl
  have hmin : Format.binary64.minExponent = -1074 := rfl
  unfold Format.targetExponent totalExponent cutExponent
  rw [hbits, hmin]
  congr 1
  ring

theorem shiftToTargetExponent_eq (m : ℕ) (e : ℤ) (accuracy : Accuracy) :
    shiftToTargetExponent Format.binary64 m e accuracy =
      (ExtendedMantissa.ofMantissaAndAccuracy m accuracy >>> (cutExponent m e - e).toNat,
        e + ((cutExponent m e - e).toNat : ℤ)) := by
  unfold shiftToTargetExponent
  rw [targetExponent_eq, shiftToExponent_eq]

/-- What is left of a mantissa fills its 53 bits, unless the exponent is the least one. -/
theorem cut_bounds {m : ℕ} {e : ℤ} (he : e ≤ cutExponent m e) (hm : 0 < m ∨ e ≤ -1074) :
    m / 2 ^ (cutExponent m e - e).toNat < 2 ^ 53 ∧
      (2 ^ 52 ≤ m / 2 ^ (cutExponent m e - e).toNat ∨ cutExponent m e = -1074) := by
  have hlog := Nat.lt_log2_self (n := m)
  generalize hn : (cutExponent m e - e).toNat = n
  have hn : (n : ℤ) = cutExponent m e - e := by omega
  unfold cutExponent at hn ⊢
  constructor
  · rw [Nat.div_lt_iff_lt_mul (by positivity), ← pow_add]
    exact hlog.trans_le (Nat.pow_le_pow_right (by norm_num) (by omega))
  · by_cases hnormal : (m.log2 : ℤ) + e - 52 ≤ -1074
    · exact Or.inr (max_eq_right hnormal)
    · left
      rw [max_eq_left (by omega)] at hn
      have hpos : 0 < m := by
        rcases hm with hm | hm
        · exact hm
        · by_contra hzero
          obtain rfl : m = 0 := by omega
          rw [Nat.log2_zero] at hnormal
          omega
      rw [Nat.le_div_iff_mul_le (by positivity), ← pow_add]
      exact (Nat.pow_le_pow_right (by norm_num) (by omega)).trans (Nat.log2_self_le (by omega))

/-- Cutting off again what was rounded up changes the form of the number and not its value. -/
theorem shiftToTargetExponent_exact {r : ℕ} {t : ℤ} (hr : r ≤ 2 ^ 53) (ht : -1074 ≤ t)
    (hnormal : 2 ^ 52 ≤ r ∨ t = -1074) :
    let final := shiftToTargetExponent Format.binary64 r t .exact
    final.1.mantissa < 2 ^ 53 ∧ -1074 ≤ final.2 ∧
      (2 ^ 52 ≤ final.1.mantissa ∨ final.2 = -1074) ∧
      (final.1.mantissa : ℝ) * (2 : ℝ) ^ final.2 = r * (2 : ℝ) ^ t := by
  rw [shiftToTargetExponent_eq]
  simp only [mantissa_shiftRight, mantissa_ofMantissaAndAccuracy]
  rcases Nat.lt_or_eq_of_le hr with hlt | rfl
  · have hlog : r.log2 ≤ 52 := by
      by_cases hzero : r = 0
      · subst hzero
        simp
      · have := (Nat.log2_lt hzero).mpr hlt
        omega
    have hshift : (cutExponent r t - t).toNat = 0 := by
      unfold cutExponent
      omega
    rw [hshift]
    simpa using ⟨hlt, ht, hnormal⟩
  · have hlog : (2 ^ 53 : ℕ).log2 = 53 := Nat.log2_two_pow
    have hshift : (cutExponent (2 ^ 53) t - t).toNat = 1 := by
      unfold cutExponent
      rw [hlog]
      omega
    rw [hshift]
    refine ⟨by norm_num, by push_cast; omega, Or.inl (by norm_num), ?_⟩
    push_cast
    rw [zpow_add₀ (by norm_num)]
    norm_num
    ring

theorem abs_sub_le_of_int {r k : ℤ} {y : ℝ} (h : |(r : ℝ) - y| ≤ 1 / 2) :
    |(r : ℝ) - y| ≤ |(k : ℝ) - y| := by
  by_cases hkr : k = r
  · rw [hkr]
  · have hfar : (1 : ℝ) ≤ |(k : ℝ) - r| := by
      exact_mod_cast Int.one_le_abs (sub_ne_zero.mpr hkr)
    have htriangle : |(k : ℝ) - r| ≤ |(k : ℝ) - y| + |(r : ℝ) - y| := by
      rw [abs_sub_comm (r : ℝ) y]
      exact abs_sub_le _ _ _
    linarith

/-- A rounded mantissa makes the nearest number, since all others are multiples of the same unit or
lie below all that the mantissa can reach. -/
theorem isNearest_of_cut {m r : ℕ} {t : ℤ} {y : ℝ} (ht : -1074 ≤ t) (hm : m < 2 ^ 53)
    (hnormal : 2 ^ 52 ≤ m ∨ t = -1074) (hmy : (m : ℝ) ≤ y) (hr : r = m ∨ r = m + 1)
    (hry : |(r : ℝ) - y| ≤ 1 / 2) : IsNearest (y * (2 : ℝ) ^ t) (r * (2 : ℝ) ^ t) where
  representable := representable_of_le (by omega) ht
  le := by
    rintro z ⟨n, d, hn, hd, hz⟩
    have hunit : (0 : ℝ) < (2 : ℝ) ^ t := by positivity
    have hleast : ∀ k : ℤ, |(r : ℝ) * (2 : ℝ) ^ t - y * (2 : ℝ) ^ t| ≤
        |(k : ℝ) * (2 : ℝ) ^ t - y * (2 : ℝ) ^ t| := by
      intro k
      rw [← sub_mul, ← sub_mul, abs_mul, abs_mul]
      exact mul_le_mul_of_nonneg_right (abs_sub_le_of_int (r := r) hry) (abs_nonneg _)
    by_cases htd : t ≤ d
    · have hmultiple : (n : ℝ) * (2 : ℝ) ^ d = ((n * 2 ^ (d - t).toNat : ℤ) : ℝ) * (2 : ℝ) ^ t := by
        rw [zpow_eq_pow_mul htd]
        push_cast
        ring
      rw [hmultiple] at hz
      rcases abs_eq_abs.mp (hz.trans (abs_of_nonneg (by positivity)).symm) with rfl | rfl
      · exact hleast _
      · have := hleast (-(n * 2 ^ (d - t).toNat))
        rwa [Int.cast_neg, neg_mul] at this
    · have hm52 : 2 ^ 52 ≤ m := hnormal.resolve_right (by omega)
      have hbelow : z ≤ 2 ^ 52 * (2 : ℝ) ^ t := by
        have hn' : (n : ℝ) ≤ 2 ^ 53 := by exact_mod_cast hn.le
        calc
          z ≤ |z| := le_abs_self z
          _ = n * (2 : ℝ) ^ d := hz
          _ ≤ 2 ^ 53 * (2 : ℝ) ^ (t - 1) :=
            mul_le_mul hn' (zpow_le_zpow_right₀ (by norm_num) (by omega)) (by positivity)
              (by positivity)
          _ = 2 ^ 52 * (2 : ℝ) ^ t := by
            rw [zpow_sub₀ (by norm_num)]
            norm_num
            ring
      have hm52' : (2 : ℝ) ^ 52 ≤ y := le_trans (by exact_mod_cast hm52) hmy
      have hscaled : 2 ^ 52 * (2 : ℝ) ^ t ≤ y * (2 : ℝ) ^ t :=
        mul_le_mul_of_nonneg_right hm52' hunit.le
      have := hleast (2 ^ 52)
      rw [Int.cast_pow, Int.cast_ofNat] at this
      rw [abs_of_nonpos (by linarith : 2 ^ 52 * (2 : ℝ) ^ t - y * (2 : ℝ) ^ t ≤ 0)] at this
      rw [abs_of_nonpos (by linarith : z - y * (2 : ℝ) ^ t ≤ 0)]
      linarith

/-! ## The largest numbers -/

theorem pow_top : (2 : ℝ) ^ 1024 = 2 ^ 54 * 2 ^ 970 := pow_add 2 54 970

theorem limit_eq : limit = (2 ^ 54 - 1) * 2 ^ 970 := by
  rw [limit, pow_top, sub_mul, one_mul]

theorem limit_pos : 0 < limit := by
  rw [limit_eq]
  exact mul_pos (by norm_num) (by positivity)

theorem pow_le_of_lt_exponent {m : ℕ} {t : ℤ} (hnormal : 2 ^ 52 ≤ m ∨ t = -1074) (ht : 971 < t) :
    (2 : ℝ) ^ 1024 ≤ m * (2 : ℝ) ^ t := by
  have hm : (2 : ℝ) ^ 52 ≤ m := by exact_mod_cast hnormal.resolve_right (by omega)
  calc
    (2 : ℝ) ^ 1024 = 2 ^ 52 * (2 : ℝ) ^ (972 : ℤ) := pow_eq_mul_zpow (by norm_num)
    _ ≤ m * (2 : ℝ) ^ t :=
      mul_le_mul hm (zpow_le_zpow_right₀ (by norm_num) (by omega)) (by positivity) (by positivity)

/-- A canonical magnitude has an exponent that can be packed if it lies below the next power. -/
theorem exponent_le_iff {m : ℕ} {t : ℤ} (hm : m < 2 ^ 53) (hnormal : 2 ^ 52 ≤ m ∨ t = -1074) :
    t ≤ 971 ↔ (m : ℝ) * (2 : ℝ) ^ t < 2 ^ 1024 := by
  constructor
  · intro ht
    have hm' : (m : ℝ) < 2 ^ 53 := by exact_mod_cast hm
    calc
      (m : ℝ) * (2 : ℝ) ^ t < 2 ^ 53 * (2 : ℝ) ^ t := mul_lt_mul_of_pos_right hm' (by positivity)
      _ ≤ 2 ^ 53 * (2 : ℝ) ^ (971 : ℤ) :=
        mul_le_mul_of_nonneg_left (zpow_le_zpow_right₀ (by norm_num) ht) (by positivity)
      _ = 2 ^ 1024 := (pow_eq_mul_zpow (by norm_num)).symm
  · intro hlt
    by_contra ht
    exact absurd hlt (not_lt.mpr (pow_le_of_lt_exponent hnormal (not_le.mp ht)))

/-- The last mantissa of all is odd, so what lies halfway behind it is rounded up. -/
theorem lt_pow_iff_lt_limit {m r : ℕ} {t : ℤ} {y : ℝ} (hm : m < 2 ^ 53)
    (hnormal : 2 ^ 52 ≤ m ∨ t = -1074) (hmy : (m : ℝ) ≤ y) (hr : r = m ∨ r = m + 1)
    (hry : |(r : ℝ) - y| ≤ 1 / 2) (heven : |(r : ℝ) - y| = 1 / 2 → r % 2 = 0) :
    (r : ℝ) * (2 : ℝ) ^ t < 2 ^ 1024 ↔ y * (2 : ℝ) ^ t < limit := by
  have hr53 : (r : ℝ) ≤ 2 ^ 53 := by exact_mod_cast (by omega : r ≤ 2 ^ 53)
  obtain ⟨hlow, hhigh⟩ := abs_le.mp hry
  rcases lt_trichotomy t 971 with ht | rfl | ht
  · have hpow : (2 : ℝ) ^ t ≤ 2 ^ 970 := by
      rw [← zpow_natCast]
      exact zpow_le_zpow_right₀ (by norm_num) (by push_cast; omega)
    have hr0 : (0 : ℝ) ≤ r := Nat.cast_nonneg r
    have hy0 : 0 ≤ y := (Nat.cast_nonneg m).trans hmy
    refine iff_of_true ?_ ?_
    · calc
        (r : ℝ) * (2 : ℝ) ^ t ≤ 2 ^ 53 * 2 ^ 970 :=
          mul_le_mul hr53 hpow (by positivity) (by positivity)
        _ < 2 ^ 54 * 2 ^ 970 := mul_lt_mul_of_pos_right (by norm_num) (by positivity)
        _ = 2 ^ 1024 := pow_top.symm
    · calc
        y * (2 : ℝ) ^ t ≤ (2 ^ 53 + 1 / 2) * 2 ^ 970 :=
          mul_le_mul (by linarith) hpow (by positivity) (by positivity)
        _ < (2 ^ 54 - 1) * 2 ^ 970 := mul_lt_mul_of_pos_right (by norm_num) (by positivity)
        _ = limit := limit_eq.symm
  · have htop : (2 : ℝ) ^ 1024 = 2 ^ 53 * (2 : ℝ) ^ (971 : ℤ) := pow_eq_mul_zpow (by norm_num)
    have hstep : (2 : ℝ) ^ (971 : ℤ) = 2 * 2 ^ 970 := (zpow_natCast 2 971).trans (pow_succ' 2 970)
    have hlimit : limit = (2 ^ 53 - 1 / 2) * (2 : ℝ) ^ (971 : ℤ) := by
      rw [limit_eq, hstep, ← mul_assoc]
      congr 1
      norm_num
    rw [hlimit, htop, mul_lt_mul_iff_left₀ (by positivity), mul_lt_mul_iff_left₀ (by positivity)]
    constructor
    · intro hlt
      have hlt : r < 2 ^ 53 := by exact_mod_cast hlt
      have hle : (r : ℝ) ≤ 2 ^ 53 - 1 := by
        have : (r : ℝ) + 1 ≤ 2 ^ 53 := by exact_mod_cast hlt
        linarith
      rcases lt_or_eq_of_le hry with hry | htie
      · linarith [(abs_lt.mp hry).1]
      · have := heven htie
        have hle : (r : ℝ) + 2 ≤ 2 ^ 53 := by exact_mod_cast (by omega : r + 2 ≤ 2 ^ 53)
        linarith
    · intro hlt
      linarith
  · have hmr : (m : ℝ) ≤ r := by exact_mod_cast (by omega : m ≤ r)
    have hbig := pow_le_of_lt_exponent hnormal ht
    refine iff_of_false (not_lt.mpr ?_) (not_lt.mpr ?_)
    · exact hbig.trans (mul_le_mul_of_nonneg_right hmr (by positivity))
    · have : limit ≤ 2 ^ 1024 := sub_le_self _ (by positivity)
      exact (this.trans hbig).trans (mul_le_mul_of_nonneg_right hmy (by positivity))

/-! ## Rounding an exact result -/

/-- The factor that a sign stands for. -/
def unit : Sign → ℝ
  | .negative => -1
  | .positive => 1

theorem value_eq_unit_mul (s : Sign) (m : ℕ) (e : ℤ) (hm : 0 < m) :
    value (.finite s m e hm) = unit s * (m * (2 : ℝ) ^ e) := by
  rw [value_finite]
  cases s with
  | negative =>
      change ((-(m : ℤ) : ℤ) : ℝ) * (2 : ℝ) ^ e = -1 * (m * (2 : ℝ) ^ e)
      push_cast
      ring
  | positive =>
      change (((m : ℤ) : ℤ) : ℝ) * (2 : ℝ) ^ e = 1 * (m * (2 : ℝ) ^ e)
      rw [one_mul, Int.cast_natCast]

theorem IsNearest.unit_mul {x v : ℝ} (s : Sign) (h : IsNearest x v) :
    IsNearest (unit s * x) (unit s * v) := by
  cases s with
  | negative =>
      rw [unit, neg_one_mul, neg_one_mul]
      exact h.neg
  | positive =>
      rw [unit, one_mul, one_mul]
      exact h

/-- A form that came out of rounding an exact result. -/
structure IsRounded (x : ℝ) (u : UnpackedFloat) : Prop where
  canonical : IsCanonical u
  finite : u.isFinite = true
  nearest : IsNearest x (value u)
  inRange_iff : InRange u ↔ |x| < limit

theorem IsRounded.zero (s : Sign) : IsRounded 0 (.zero s) where
  canonical := trivial
  finite := rfl
  nearest := ⟨representable_zero, by simp⟩
  inRange_iff := iff_of_true trivial (by simpa using limit_pos)

theorem abs_unit_mul (s : Sign) {x : ℝ} (hx : 0 ≤ x) : |unit s * x| = x := by
  cases s with
  | negative => rw [unit, neg_one_mul, abs_neg, abs_of_nonneg hx]
  | positive => rw [unit, one_mul, abs_of_nonneg hx]

theorem roundWithAccuracy_eq (s : Sign) (m : ℕ) (e : ℤ) (accuracy : Accuracy) :
    roundWithAccuracy Format.binary64 s m e accuracy =
      let cut := shiftToTargetExponent Format.binary64 m e accuracy
      let final := shiftToTargetExponent Format.binary64 cut.1.roundedMantissa cut.2 .exact
      if h : final.1.mantissa = 0 then .zero s
      else .finite s final.1.mantissa final.2 (Nat.pos_of_ne_zero h) :=
  rfl

/-- What is divided for the cut is multiplied by the unit of the cut. -/
theorem div_mul_cut {y : ℝ} {e t : ℤ} (h : e ≤ t) :
    y / 2 ^ (t - e).toNat * (2 : ℝ) ^ t = y * (2 : ℝ) ^ e := by
  rw [zpow_eq_pow_mul h]
  field_simp

theorem roundWithAccuracy_isRounded (s : Sign) {m : ℕ} {e : ℤ} {accuracy : Accuracy} {f : ℝ}
    (hf : Describes accuracy f) (he : e ≤ cutExponent m e) (hm : 0 < m ∨ e ≤ -1074) :
    IsRounded (unit s * ((m + f) * (2 : ℝ) ^ e))
      (roundWithAccuracy Format.binary64 s m e accuracy) := by
  obtain ⟨hsmall, hnormal⟩ := cut_bounds he hm
  have ht : -1074 ≤ cutExponent m e := le_max_right _ _
  have htracks := (tracks_ofMantissaAndAccuracy (m := m) hf).shiftRight (cutExponent m e - e).toNat
  have hmantissa := mantissa_shiftRight (ExtendedMantissa.ofMantissaAndAccuracy m accuracy)
    (cutExponent m e - e).toNat
  rw [mantissa_ofMantissaAndAccuracy] at hmantissa
  have hexponent : e + ((cutExponent m e - e).toNat : ℤ) = cutExponent m e := by omega
  have hexact := div_mul_cut (y := m + f) he
  rw [← hmantissa] at hsmall hnormal
  rw [roundWithAccuracy_eq, shiftToTargetExponent_eq m e, hexponent]
  dsimp only
  generalize ExtendedMantissa.ofMantissaAndAccuracy m accuracy >>>
    (cutExponent m e - e).toNat = em at htracks hsmall hnormal
  generalize cutExponent m e = t at ht hnormal hexact htracks
  obtain ⟨hnext, herror⟩ := htracks.roundedMantissa
  have hnearest :=
    (isNearest_of_cut ht hsmall hnormal htracks.mantissa_le hnext herror).unit_mul s
  have hlimit := lt_pow_iff_lt_limit hsmall hnormal htracks.mantissa_le hnext herror
    htracks.roundedMantissa_even
  have habs : |unit s * ((m + f) * (2 : ℝ) ^ e)| = (m + f) * (2 : ℝ) ^ e :=
    abs_unit_mul s (mul_nonneg (add_nonneg (Nat.cast_nonneg m) hf.bounds.1) (by positivity))
  rw [hexact] at hnearest hlimit
  rw [← habs] at hlimit
  have hfinal := shiftToTargetExponent_exact (r := em.roundedMantissa) (by omega) ht (by omega)
  generalize shiftToTargetExponent Format.binary64 em.roundedMantissa t .exact = final at hfinal
  obtain ⟨hlt, hle, hfull, hvalue⟩ := hfinal
  rw [← hvalue] at hnearest hlimit
  by_cases hzero : final.1.mantissa = 0
  · rw [dif_pos hzero]
    rw [hzero, Nat.cast_zero, zero_mul] at hnearest hlimit
    refine ⟨trivial, rfl, ?_, iff_of_true trivial (hlimit.mp (by positivity))⟩
    rwa [mul_zero] at hnearest
  · rw [dif_neg hzero]
    refine ⟨⟨hlt, hle, hfull⟩, rfl, ?_, (exponent_le_iff hlt hfull).trans hlimit⟩
    rw [value_eq_unit_mul]
    exact hnearest

end RegexInference.Binary64
