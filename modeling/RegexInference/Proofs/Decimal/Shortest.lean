import Mathlib.Algebra.Order.Field.Power
import Mathlib.Data.Real.Basic
import Mathlib.Tactic.FieldSimp
import Mathlib.Tactic.Linarith
import Mathlib.Tactic.Positivity
import Mathlib.Tactic.Ring
import RegexInference.Decimal.Shortest

/-!
# Shortest decimals round back

The search for a shortest decimal goes through powers of ten from that of the leading digit down.  It
stops at the first one with a multiple among the reals that round to the number, which is at most
sixteen places further on.
-/

namespace RegexInference.Decimal

/-- The number that a decimal stands for. -/
noncomputable def Scaled.toReal (s : Scaled) : ℝ := s.digits * (10 : ℝ) ^ s.exponent

/-! ## Intervals -/

namespace Interval

/-- The reals that an interval stands for. -/
structure Spans (i : Interval) (low value high : ℝ) : Prop where
  denominator : 0 < i.denominator
  low_eq : (i.low : ℝ) = low * i.denominator
  value_eq : (i.value : ℝ) = value * i.denominator
  high_eq : (i.high : ℝ) = high * i.denominator

/-- A whole number of units is a whole number of parts of a unit. -/
theorem pow_toNat_neg_mul (k : ℤ) :
    ((Nat.pow 10 (-k).toNat : ℕ) : ℝ) * (10 : ℝ) ^ k = (Nat.pow 10 k.toNat : ℕ) := by
  have hcast : ∀ n : ℕ, ((Nat.pow 10 n : ℕ) : ℝ) = (10 : ℝ) ^ (n : ℤ) := by
    intro n
    rw [Nat.pow_eq, Nat.cast_pow, Nat.cast_ofNat, zpow_natCast]
  rw [hcast, hcast, ← zpow_add₀ (by norm_num)]
  congr 1
  omega

section

variable {i : Interval} {low value high : ℝ} (h : i.Spans low value high)
include h

theorem Spans.inUnits (k : ℤ) :
    (i.inUnits k).Spans (low / 10 ^ k) (value / 10 ^ k) (high / 10 ^ k) := by
  have hpos : (0 : ℝ) < 10 ^ k := by positivity
  have hscale : ∀ {x : ℕ} {y : ℝ}, (x : ℝ) = y * i.denominator →
      ((x * Nat.pow 10 (-k).toNat : ℕ) : ℝ) =
        y / 10 ^ k * ((i.denominator * Nat.pow 10 k.toNat : ℕ) : ℝ) := by
    intro x y hx
    rw [Nat.cast_mul, Nat.cast_mul, ← pow_toNat_neg_mul k, hx]
    field_simp
  exact
    { denominator := Nat.mul_pos h.denominator (Nat.pow_pos (by decide))
      low_eq := hscale h.low_eq
      value_eq := hscale h.value_eq
      high_eq := hscale h.high_eq }

theorem Spans.le_iff {x : ℕ} {y : ℝ} (hx : (x : ℝ) = y * i.denominator) (n : ℕ) :
    (x ≤ n * i.denominator ↔ y ≤ n) ∧ (n * i.denominator ≤ x ↔ n ≤ y) := by
  have hpos : (0 : ℝ) < i.denominator := Nat.cast_pos.mpr h.denominator
  rw [← Nat.cast_le (α := ℝ), ← Nat.cast_le (α := ℝ), hx, Nat.cast_mul]
  exact ⟨mul_le_mul_iff_left₀ hpos, mul_le_mul_iff_left₀ hpos⟩

/-- A whole number is in the interval if it lies between the ends, which belong to the interval if
it is closed. -/
theorem Spans.contains_iff (n : ℕ) :
    i.contains n = true ↔
      if i.closed = true then low ≤ n ∧ n ≤ high else low < n ∧ n < high := by
  have hlow := h.le_iff h.low_eq n
  have hhigh := h.le_iff h.high_eq n
  unfold contains
  dsimp only
  split_ifs with hclosed
  · simp only [Bool.and_eq_true, decide_eq_true_eq, hlow.1, hhigh.2]
  · simp only [Bool.and_eq_true, decide_eq_true_eq, ← not_le, hlow.2, hhigh.1]

/-- A whole number in the interval lies between its ends. -/
theorem Spans.of_contains {n : ℕ} (hn : i.contains n = true) :
    low ≤ n ∧ n ≤ high ∧ (i.closed = false → low < n ∧ n < high) := by
  have hends := (h.contains_iff n).mp hn
  split_ifs at hends with hclosed
  · exact ⟨hends.1, hends.2, fun hopen => absurd (hclosed.symm.trans hopen) (by decide)⟩
  · exact ⟨hends.1.le, hends.2.le, fun _ => hends⟩

theorem Spans.contains_of_lt {n : ℕ} (hlow : low < n) (hhigh : n < high) :
    i.contains n = true := by
  rw [h.contains_iff]
  split_ifs
  · exact ⟨hlow.le, hhigh.le⟩
  · exact ⟨hlow, hhigh⟩

/-- The value lies between the whole numbers that are tried. -/
theorem Spans.value_bounds :
    ((i.value / i.denominator : ℕ) : ℝ) ≤ value ∧ value < (i.value / i.denominator : ℕ) + 1 := by
  constructor
  · rw [← (h.le_iff h.value_eq _).2]
    exact Nat.div_mul_le_self _ _
  · have hnext := (h.le_iff h.value_eq (i.value / i.denominator + 1)).2
    rw [← not_le, ← Nat.cast_add_one, ← hnext, not_le]
    exact Nat.lt_mul_of_div_lt (Nat.lt_succ_self _) h.denominator

omit h in
/-- Of the whole numbers next to the value one is taken that lies in the interval, if one does. -/
theorem whole?_cases (i : Interval) (tie : Tie) :
    (i.whole? tie = none ∧ i.contains (i.value / i.denominator) = false ∧
      i.contains (i.value / i.denominator + 1) = false) ∨
    ∃ n, i.whole? tie = some n ∧ i.contains n = true ∧
      (n = i.value / i.denominator ∨ n = i.value / i.denominator + 1) := by
  unfold whole?
  dsimp only
  cases hbelow : i.contains (i.value / i.denominator) <;>
    cases habove : i.contains (i.value / i.denominator + 1) <;> dsimp only
  case false.false => exact Or.inl ⟨rfl, rfl, rfl⟩
  case false.true => exact Or.inr ⟨_, rfl, habove, Or.inr rfl⟩
  case true.false => exact Or.inr ⟨_, rfl, hbelow, Or.inl rfl⟩
  case true.true =>
    right
    split_ifs <;> cases tie <;>
      first
        | exact ⟨_, rfl, hbelow, Or.inl rfl⟩
        | exact ⟨_, rfl, habove, Or.inr rfl⟩

/-- The whole number that is taken lies in the interval, and is next to the value. -/
theorem Spans.of_whole? {tie : Tie} {n : ℕ} (hn : i.whole? tie = some n) :
    i.contains n = true ∧ n ≤ value + 1 := by
  have hbelow := h.value_bounds.1
  rcases i.whole?_cases tie with ⟨hnone, -⟩ | ⟨m, hm, hcontains, hnext⟩
  · cases hnone.symm.trans hn
  · obtain rfl := Option.some_inj.mp (hm.symm.trans hn)
    refine ⟨hcontains, ?_⟩
    rcases hnext with rfl | rfl
    · linarith
    · push_cast
      linarith

/-- Where no whole number is in the interval it is no longer than a unit. -/
theorem Spans.length_le_one (hlow : low < value) (hhigh : value < high) {tie : Tie}
    (hnone : i.whole? tie = none) : high - low ≤ 1 := by
  obtain ⟨hbelow, habove⟩ := h.value_bounds
  rcases i.whole?_cases tie with ⟨-, hnotBelow, hnotAbove⟩ | ⟨n, hn, -⟩
  · have hbefore : ((i.value / i.denominator : ℕ) : ℝ) ≤ low := by
      by_contra hlt
      have hcontains := h.contains_of_lt (not_le.mp hlt) (hbelow.trans_lt hhigh)
      cases hcontains.symm.trans hnotBelow
    have hbehind : high ≤ ((i.value / i.denominator + 1 : ℕ) : ℝ) := by
      by_contra hlt
      have hcontains := h.contains_of_lt (hlow.trans (habove.trans_eq (Nat.cast_add_one _).symm))
        (not_le.mp hlt)
      cases hcontains.symm.trans hnotAbove
    push_cast at hbehind
    linarith
  · cases hnone.symm.trans hn

/-- Powers of ten are compared with the value. -/
theorem Spans.leading_iff (k : ℤ) :
    (i.inUnits k).denominator ≤ (i.inUnits k).value ↔ (10 : ℝ) ^ k ≤ value := by
  have hunits := h.inUnits k
  have hone := (hunits.le_iff hunits.value_eq 1).2
  rw [Nat.one_mul] at hone
  rw [hone, Nat.cast_one, le_div_iff₀ (by positivity), one_mul]

/-- The leading power is at most the value if the first one is, and the next one is greater, unless
the steps have been used up. -/
theorem Spans.leadingPower_spec (fuel : ℕ) {k : ℤ} (hk : (10 : ℝ) ^ k ≤ value) :
    let power := i.leadingPower fuel k
    (10 : ℝ) ^ power ≤ value ∧ k ≤ power ∧ power ≤ k + fuel ∧
      (value < (10 : ℝ) ^ (power + 1) ∨ power = k + fuel) := by
  induction fuel generalizing k with
  | zero => exact ⟨hk, le_refl k, by simp [leadingPower], Or.inr (by simp [leadingPower])⟩
  | succ fuel ih =>
      dsimp only at ih ⊢
      unfold leadingPower
      dsimp only
      have hleading := h.leading_iff (k + 1)
      split_ifs with hunits
      · obtain ⟨hpower, hle, hfuel, hupper⟩ := ih (hleading.mp hunits)
        refine ⟨hpower, by omega, by push_cast; omega, hupper.imp_right fun heq => ?_⟩
        rw [heq]
        push_cast
        omega
      · exact ⟨hk, le_refl k, by omega, Or.inl (not_le.mp fun hle => hunits (hleading.mpr hle))⟩

end

/-- The search stops at the first unit that has a multiple in the interval. -/
theorem shortestFrom_spec (i : Interval) (tie : Tie) {fuel : ℕ} {unit : ℤ}
    (hfound : ∃ j < fuel, ((i.inUnits (unit - j)).whole? tie).isSome = true) :
    ∃ j < fuel, ∃ n, (i.inUnits (unit - j)).whole? tie = some n ∧
      i.shortestFrom tie fuel unit = Scaled.trim 20 ⟨n, unit - j⟩ := by
  induction fuel generalizing unit with
  | zero =>
      obtain ⟨j, hj, -⟩ := hfound
      exact absurd hj (Nat.not_lt_zero j)
  | succ fuel ih =>
      unfold shortestFrom
      cases hwhole : (i.inUnits unit).whole? tie with
      | some n => exact ⟨0, Nat.succ_pos fuel, n, by simpa using hwhole, by simp⟩
      | none =>
          have hshift : ∀ j : ℕ, unit - (j + 1 : ℕ) = unit - 1 - j := fun j => by omega
          have hlater : ∃ j < fuel, ((i.inUnits (unit - 1 - j)).whole? tie).isSome = true := by
            obtain ⟨j, hj, hsome⟩ := hfound
            cases j with
            | zero =>
                rw [Nat.cast_zero, sub_zero, hwhole] at hsome
                cases hsome
            | succ j =>
                rw [hshift] at hsome
                exact ⟨j, Nat.lt_of_succ_lt_succ hj, hsome⟩
          obtain ⟨j, hj, n, hn, heq⟩ := ih hlater
          refine ⟨j + 1, Nat.succ_lt_succ hj, n, ?_, ?_⟩
          · rw [hshift]
            exact hn
          · rw [hshift]
            exact heq

end Interval

namespace Scaled

/-- One zero is moved. -/
theorem toReal_div_ten {s : Scaled} (hzero : s.digits % 10 = 0) :
    toReal ⟨s.digits / 10, s.exponent + 1⟩ = s.toReal := by
  have hdigits : (s.digits : ℝ) = (s.digits / 10 : ℕ) * 10 := by
    exact_mod_cast (Nat.div_mul_cancel (Nat.dvd_of_mod_eq_zero hzero)).symm
  unfold toReal
  rw [hdigits, zpow_add₀ (by norm_num), zpow_one]
  ring

/-- Zeros at the end are moved and nothing else. -/
theorem trim_spec (fuel : ℕ) (s : Scaled) :
    (s.trim fuel).toReal = s.toReal ∧ (s.trim fuel).digits ≤ s.digits ∧
      s.exponent ≤ (s.trim fuel).exponent ∧ (s.trim fuel).exponent ≤ s.exponent + fuel := by
  induction fuel generalizing s with
  | zero => exact ⟨rfl, le_rfl, le_rfl, by simp [trim]⟩
  | succ fuel ih =>
      unfold trim
      split_ifs with hzero
      · obtain ⟨hreal, hdigits, hlow, hhigh⟩ := ih ⟨s.digits / 10, s.exponent + 1⟩
        refine ⟨hreal.trans (toReal_div_ten hzero.2), hdigits.trans (Nat.div_le_self _ _), ?_, ?_⟩
        · dsimp only at hlow
          omega
        · dsimp only at hhigh
          push_cast
          omega
      · exact ⟨rfl, le_rfl, le_rfl, by omega⟩

end Scaled

/-! ## Powers of ten and of two -/

/-- The logarithm of two to base ten lies between 3/10 and 16/53. -/
theorem ten_zpow_le_two_zpow {s b : ℤ} (h : (0 ≤ b ∧ 10 * s ≤ 3 * b) ∨ (b ≤ 0 ∧ 53 * s ≤ 16 * b)) :
    (10 : ℝ) ^ s ≤ (2 : ℝ) ^ b := by
  rcases h with ⟨hb, hs⟩ | ⟨hb, hs⟩
  · apply le_of_pow_le_pow_left₀ (n := 10) (by decide) (by positivity)
    calc
      ((10 : ℝ) ^ s) ^ 10 = (10 : ℝ) ^ (10 * s) := by
        rw [← zpow_natCast, ← zpow_mul]
        congr 1
        push_cast
        ring
      _ ≤ (10 : ℝ) ^ (3 * b) := zpow_le_zpow_right₀ (by norm_num) hs
      _ = ((10 : ℝ) ^ 3) ^ b := by rw [← zpow_natCast, ← zpow_mul]; rfl
      _ ≤ ((2 : ℝ) ^ 10) ^ b := zpow_le_zpow_left₀ hb (by positivity) (by norm_num)
      _ = ((2 : ℝ) ^ b) ^ 10 := by
        rw [← zpow_natCast, ← zpow_natCast, ← zpow_mul, ← zpow_mul, mul_comm]
  · apply le_of_pow_le_pow_left₀ (n := 53) (by decide) (by positivity)
    calc
      ((10 : ℝ) ^ s) ^ 53 = (10 : ℝ) ^ (53 * s) := by
        rw [← zpow_natCast, ← zpow_mul]
        congr 1
        push_cast
        ring
      _ ≤ (10 : ℝ) ^ (16 * b) := zpow_le_zpow_right₀ (by norm_num) hs
      _ = ((10 : ℝ) ^ 16) ^ b := by rw [← zpow_natCast, ← zpow_mul]; rfl
      _ ≤ ((2 : ℝ) ^ 53) ^ b := by
        have hinv : ((2 : ℝ) ^ 53) ^ (-b) ≤ ((10 : ℝ) ^ 16) ^ (-b) :=
          zpow_le_zpow_left₀ (by omega) (by positivity) (by norm_num)
        rw [zpow_neg, zpow_neg] at hinv
        exact (inv_le_inv₀ (by positivity) (by positivity)).mp hinv
      _ = ((2 : ℝ) ^ b) ^ 53 := by
        rw [← zpow_natCast, ← zpow_natCast, ← zpow_mul, ← zpow_mul, mul_comm]

theorem two_zpow_le_ten_zpow {s b : ℤ} (h : (0 ≤ b ∧ 16 * b ≤ 53 * s) ∨ (b ≤ 0 ∧ 3 * b ≤ 10 * s)) :
    (2 : ℝ) ^ b ≤ (10 : ℝ) ^ s := by
  have hinv := ten_zpow_le_two_zpow (s := -s) (b := -b) (by omega)
  rw [zpow_neg, zpow_neg] at hinv
  exact (inv_le_inv₀ (by positivity) (by positivity)).mp hinv

/-! ## Numbers -/

section

variable {m : ℕ} {e : ℤ}

/-- How far the reals reach down that round to a number, in quarters of the last place.  Below a power
of two the neighbour is only half as far away. -/
def quartersBelow (m : ℕ) (e : ℤ) : ℕ := if m = 2 ^ 52 ∧ -1074 < e then 1 else 2

theorem quartersBelow_bounds (m : ℕ) (e : ℤ) :
    (1 : ℝ) ≤ quartersBelow m e ∧ (quartersBelow m e : ℝ) ≤ 2 := by
  unfold quartersBelow
  split_ifs <;> norm_num

theorem spans_ofBinary (hm : 0 < m) :
    (Interval.ofBinary m e).Spans ((m - quartersBelow m e / 4) * 2 ^ e) (m * 2 ^ e)
      ((m + 1 / 2) * 2 ^ e) := by
  have hpow : ∀ k : ℕ, ((1 <<< k : ℕ) : ℝ) = (2 : ℝ) ^ (k : ℤ) := by
    intro k
    rw [Nat.shiftLeft_eq, Nat.one_mul, Nat.cast_pow, Nat.cast_ofNat, zpow_natCast]
  -- A quarter of the last place is the unit in which the ends are whole.
  have hunit : (4 : ℝ) * ((1 <<< (e - 2).toNat : ℕ) : ℝ) =
      (2 : ℝ) ^ e * ((1 <<< (2 - e).toNat : ℕ) : ℝ) := by
    have hfour : (4 : ℝ) = (2 : ℝ) ^ (2 : ℤ) := by norm_num
    rw [hpow, hpow, hfour, ← zpow_add₀ (by norm_num), ← zpow_add₀ (by norm_num)]
    congr 1
    omega
  have hgap : ((4 * m - (if m = 0x10000000000000 ∧ e > -1074 then 1 else 2) : ℕ) : ℝ) =
      4 * (m - quartersBelow m e / 4) := by
    change ((4 * m - quartersBelow m e : ℕ) : ℝ) = _
    have hle : quartersBelow m e ≤ 4 * m := by
      unfold quartersBelow
      split_ifs <;> omega
    rw [Nat.cast_sub hle]
    push_cast
    ring
  constructor
  · exact Nat.pos_of_ne_zero (by simp [Interval.ofBinary, Nat.shiftLeft_eq])
  · change (((4 * m - (if m = 0x10000000000000 ∧ e > -1074 then 1 else 2)) *
      (1 <<< (e - 2).toNat) : ℕ) : ℝ) = _ * ((1 <<< (2 - e).toNat : ℕ) : ℝ)
    rw [Nat.cast_mul, hgap, mul_assoc (_ - _), ← hunit]
    ring
  · change ((4 * m * (1 <<< (e - 2).toNat) : ℕ) : ℝ) = _ * ((1 <<< (2 - e).toNat : ℕ) : ℝ)
    rw [Nat.cast_mul, Nat.cast_mul, mul_assoc (m : ℝ), ← hunit]
    push_cast
    ring
  · change (((4 * m + 2) * (1 <<< (e - 2).toNat) : ℕ) : ℝ) = _ * ((1 <<< (2 - e).toNat : ℕ) : ℝ)
    rw [Nat.cast_mul, mul_assoc (_ + _), ← hunit]
    push_cast
    ring

/-- The binary exponent of the leading digit. -/
theorem leading_bits (hm : 0 < m) (e : ℤ) :
    (2 : ℝ) ^ ((m.log2 : ℤ) + e) ≤ m * 2 ^ e ∧ (m : ℝ) * 2 ^ e < (2 : ℝ) ^ ((m.log2 : ℤ) + e + 1) := by
  have hlow : ((2 ^ m.log2 : ℕ) : ℝ) ≤ m := Nat.cast_le.mpr (Nat.log2_self_le hm.ne')
  have hhigh : (m : ℝ) < ((2 ^ (m.log2 + 1) : ℕ) : ℝ) := Nat.cast_lt.mpr Nat.lt_log2_self
  push_cast at hlow hhigh
  constructor
  · rw [zpow_add₀ (by norm_num), zpow_natCast]
    exact mul_le_mul_of_nonneg_right hlow (by positivity)
  · have hsum : (m.log2 : ℤ) + e + 1 = ((m.log2 + 1 : ℕ) : ℤ) + e := by
      push_cast
      ring
    rw [hsum, zpow_add₀ (by norm_num), zpow_natCast]
    exact mul_lt_mul_of_pos_right hhigh (by positivity)

/-- Sixteen places behind the leading digit, a unit is shorter than the interval. -/
theorem unit_lt_length (hlt : m < 2 ^ 53) {k : ℤ} (hk : (10 : ℝ) ^ k ≤ m * 2 ^ e) :
    (10 : ℝ) ^ (k - 16) < (m + 1 / 2) * 2 ^ e - (m - quartersBelow m e / 4) * 2 ^ e := by
  have hpos : (0 : ℝ) < 2 ^ e := by positivity
  have hmantissa : (m : ℝ) < (1 / 2 + quartersBelow m e / 4) * 10 ^ 16 := by
    unfold quartersBelow
    split_ifs with hpower
    · rw [hpower.1]
      norm_num
    · have hcast : (m : ℝ) < ((2 ^ 53 : ℕ) : ℝ) := Nat.cast_lt.mpr hlt
      push_cast at hcast ⊢
      linarith
  have hunit : (10 : ℝ) ^ (k - 16) * 10 ^ 16 = (10 : ℝ) ^ k := by
    rw [← zpow_natCast, ← zpow_add₀ (by norm_num)]
    congr 1
    push_cast
    ring
  have hscaled : (10 : ℝ) ^ (k - 16) * 10 ^ 16 < (1 / 2 + quartersBelow m e / 4) * 2 ^ e * 10 ^ 16 := by
    calc
      (10 : ℝ) ^ (k - 16) * 10 ^ 16 ≤ m * 2 ^ e := hunit.trans_le hk
      _ < (1 / 2 + quartersBelow m e / 4) * 10 ^ 16 * 2 ^ e := mul_lt_mul_of_pos_right hmantissa hpos
      _ = (1 / 2 + quartersBelow m e / 4) * 2 ^ e * 10 ^ 16 := by ring
  have := lt_of_mul_lt_mul_right hscaled (by positivity)
  linarith

/-- The decimal lies between the ends of the reals that round to the number.  The ends themselves
round to the number if its mantissa is even. -/
structure RoundsBack (m : ℕ) (e : ℤ) (s : Scaled) : Prop where
  low : (m - quartersBelow m e / 4) * 2 ^ e ≤ s.toReal
  high : s.toReal ≤ (m + 1 / 2) * 2 ^ e
  open_ends : m % 2 = 1 → (m - quartersBelow m e / 4) * 2 ^ e < s.toReal ∧ s.toReal < (m + 1 / 2) * 2 ^ e

/-- The shortest decimal of a number rounds back to it, and it has no more than 18 digits. -/
theorem shortest_spec (tie : Tie) (hm : 0 < m) (hlt : m < 2 ^ 53) (hlow : -1074 ≤ e)
    (hhigh : e ≤ 971) :
    RoundsBack m e (shortest tie m e) ∧ (shortest tie m e).digits ≤ 10 ^ 18 + 1 ∧
      (shortest tie m e).exponent.natAbs ≤ 1000 := by
  have hspans := spans_ofBinary (e := e) hm
  obtain ⟨hbits, hbits'⟩ := leading_bits hm e
  have hlog : m.log2 ≤ 52 := Nat.le_of_lt_succ ((Nat.log2_lt hm.ne').mpr hlt)
  let start : ℤ := ((m.log2 : ℤ) + e) * 30103 / 100000 - 2
  have hstart : (10 : ℝ) ^ start ≤ m * 2 ^ e :=
    (ten_zpow_le_two_zpow (by omega)).trans hbits
  obtain ⟨hpower, hle, hsteps, hnext⟩ := hspans.leadingPower_spec 4 hstart
  generalize hk : (Interval.ofBinary m e).leadingPower 4 start = k at hpower hle hsteps hnext
  have hbelow : (m : ℝ) * 2 ^ e < (10 : ℝ) ^ (k + 2) := by
    rcases hnext with hnext | hnext
    · exact hnext.trans (zpow_lt_zpow_right₀ (by norm_num) (by omega))
    · refine hbits'.trans_le (two_zpow_le_ten_zpow ?_)
      omega
  have hfound : ∃ j : ℕ, j < 17 ∧
      (((Interval.ofBinary m e).inUnits (k - j)).whole? tie).isSome = true := by
    refine ⟨16, by decide, ?_⟩
    by_contra hnone
    have hunits := hspans.inUnits (k - (16 : ℕ))
    have hpos : (0 : ℝ) < (10 : ℝ) ^ (k - (16 : ℕ)) := by positivity
    have hgap := quartersBelow_bounds m e
    have htwo : (0 : ℝ) < 2 ^ e := by positivity
    have hlength := hunits.length_le_one
      (div_lt_div_of_pos_right (by nlinarith) hpos) (div_lt_div_of_pos_right (by nlinarith) hpos)
      (by simpa using hnone)
    rw [← sub_div, div_le_one hpos] at hlength
    exact absurd (unit_lt_length hlt hpower) (not_lt.mpr hlength)
  obtain ⟨j, hj, n, hn, hfrom⟩ := Interval.shortestFrom_spec _ tie hfound
  have hshortest : shortest tie m e = Scaled.trim 20 ⟨n, k - j⟩ := by
    rw [← hfrom, ← hk, shortest, if_neg hm.ne']
  obtain ⟨hreal, hdigits, hexponent, hexponent'⟩ := Scaled.trim_spec 20 ⟨n, k - j⟩
  rw [← hshortest] at hreal hdigits hexponent hexponent'
  have hunits := hspans.inUnits (k - j)
  have hpos : (0 : ℝ) < (10 : ℝ) ^ (k - j : ℤ) := by positivity
  obtain ⟨hcontains, hnear⟩ := hunits.of_whole? hn
  obtain ⟨hends, hends', hopen⟩ := hunits.of_contains hcontains
  have hnumber : (shortest tie m e).toReal = n * (10 : ℝ) ^ (k - j : ℤ) := hreal
  refine ⟨⟨?_, ?_, fun hodd => ?_⟩, hdigits.trans ?_, ?_⟩
  · rw [hnumber]
    exact (div_le_iff₀ hpos).mp hends
  · rw [hnumber]
    exact (le_div_iff₀ hpos).mp hends'
  · have hclosed : ((Interval.ofBinary m e).inUnits (k - j)).closed = false := by
      change (m % 2 == 0) = false
      rw [hodd]
      rfl
    rw [hnumber]
    exact ⟨(div_lt_iff₀ hpos).mp (hopen hclosed).1, (lt_div_iff₀ hpos).mp (hopen hclosed).2⟩
  · have hratio : (m : ℝ) * 2 ^ e / 10 ^ (k - j : ℤ) ≤ (10 : ℝ) ^ (18 : ℤ) := by
      rw [div_le_iff₀ hpos, ← zpow_add₀ (by norm_num)]
      exact hbelow.le.trans (zpow_le_zpow_right₀ (by norm_num) (by omega))
    have hpower18 : (10 : ℝ) ^ (18 : ℤ) = ((10 ^ 18 : ℕ) : ℝ) := by norm_num
    rw [hpower18] at hratio
    have hcast : (n : ℝ) ≤ ((10 ^ 18 + 1 : ℕ) : ℝ) := by
      rw [Nat.cast_add, Nat.cast_one]
      exact hnear.trans (add_le_add_left hratio 1)
    exact Nat.cast_le.mp hcast
  · dsimp only at hexponent hexponent'
    omega

end

end RegexInference.Decimal
