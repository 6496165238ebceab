import RegexInference.Proofs.Decimal.Reread

/-!
# Numbers that are read as they were written

Where the digits of a decimal and its power of ten are numbers themselves, their quotient is rounded
only once.  It lies among the reals that round to the number written, and never on an end, so it is
nearer to this number than to any other.
-/

namespace RegexInference.Binary64

open Decimal Float.Model Float.Model.UnpackedFloat

/-! ## Neighbours -/

theorem mul_two_zpow (r : ℝ) (e : ℤ) : r * (2 : ℝ) ^ e = 2 * r * (2 : ℝ) ^ (e - 1) := by
  rw [zpow_sub₀ (by norm_num), zpow_one]
  ring

/-- No number lies between two multiples of a unit in the last place. -/
theorem Representable.next_le {v : ℝ} (hv : Representable v) {k : ℕ} {t : ℤ}
    (hnormal : 2 ^ 52 ≤ k ∨ t = -1074) (hlt : k * (2 : ℝ) ^ t < v) : (k + 1) * (2 : ℝ) ^ t ≤ v := by
  obtain ⟨n, d, hn, hd, habs⟩ := hv
  have hunit : (0 : ℝ) < (2 : ℝ) ^ t := by positivity
  have hpos : 0 < v := (by positivity : (0 : ℝ) ≤ k * (2 : ℝ) ^ t).trans_lt hlt
  rw [abs_of_pos hpos] at habs
  rcases le_or_gt t d with htd | hdt
  · have hmultiple : v = ((n * 2 ^ (d - t).toNat : ℕ) : ℝ) * (2 : ℝ) ^ t := by
      rw [habs, zpow_eq_pow_mul htd]
      push_cast
      ring
    rw [hmultiple, mul_lt_mul_iff_left₀ hunit, Nat.cast_lt] at hlt
    rw [hmultiple, mul_le_mul_iff_left₀ hunit]
    exact_mod_cast hlt
  · have hfull : 2 ^ 52 ≤ k := hnormal.resolve_right (by omega)
    have hfar := magnitude_lt_of_exponent_lt hn hfull hdt
    rw [← habs] at hfar
    exact absurd hfar (lt_asymm hlt)

variable {m : ℕ} {e : ℤ} {hm : 0 < m} {v x : ℝ}

section

variable (h : IsCanonical (.finite .positive m e hm))
include h

theorem above_le (hv : Representable v) (hlt : m * (2 : ℝ) ^ e < v) :
    (m + 1) * (2 : ℝ) ^ e ≤ v :=
  hv.next_le h.2.2 hlt

theorem le_below (hv : Representable v) (hlt : v < m * (2 : ℝ) ^ e) :
    v ≤ (m - quartersBelow m e / 2) * (2 : ℝ) ^ e := by
  obtain ⟨-, hexponent, hfull⟩ := h
  by_contra hgt
  unfold quartersBelow at hgt
  split_ifs at hgt with hpower
  · obtain ⟨rfl, he⟩ := hpower
    rw [mul_two_zpow] at hlt hgt
    have hnext := hv.next_le (k := 2 ^ 53 - 1) (t := e - 1) (Or.inl (by norm_num))
      (by push_cast at hgt ⊢; linarith)
    push_cast at hlt hnext
    linarith
  · have hcast : ((m - 1 : ℕ) : ℝ) = m - 1 := by
      push_cast [Nat.one_le_iff_ne_zero.mpr hm.ne']
      ring
    have hnext := hv.next_le (k := m - 1) (t := e) (by omega) (by rw [hcast]; linarith)
    rw [hcast] at hnext
    linarith

/-- Inside the interval of a number no other one is as near. -/
theorem eq_of_isNearest (hnearest : IsNearest x v)
    (hlow : (m - quartersBelow m e / 4) * 2 ^ e < x) (hhigh : x < (m + 1 / 2) * 2 ^ e) :
    v = m * (2 : ℝ) ^ e := by
  have hself : Representable (m * (2 : ℝ) ^ e) := representable_of_le h.1.le h.2.1
  have hle := hnearest.le _ hself
  have hgap : 0 ≤ (quartersBelow m e / 4 : ℝ) * (2 : ℝ) ^ e :=
    mul_nonneg (by linarith [(quartersBelow_bounds m e).1]) (by positivity)
  rcases lt_trichotomy v (m * (2 : ℝ) ^ e) with hlt | heq | hgt
  · have hbelow := le_below h hnearest.representable hlt
    have hdistance : |v - x| = x - v := by
      rw [abs_of_nonpos (by linarith)]
      ring
    rcases abs_cases (m * (2 : ℝ) ^ e - x) with ⟨habs, -⟩ | ⟨habs, -⟩ <;> linarith
  · exact heq
  · have habove := above_le h hnearest.representable hgt
    have hdistance : |v - x| = v - x := abs_of_nonneg (by linarith)
    rcases abs_cases (m * (2 : ℝ) ^ e - x) with ⟨habs, -⟩ | ⟨habs, -⟩ <;> linarith

end

/-! ## Ends of intervals -/

/-- A quotient of numbers that are not large is not an odd multiple of a unit that is too fine for
them. -/
theorem div_pow_ne_odd_mul {d n k : ℕ} (hd : d ≤ 2 ^ 53) (hn : 2 ^ 53 < n) (hodd : Odd n) (t : ℤ) :
    (d : ℝ) / 10 ^ k ≠ n * (2 : ℝ) ^ t := by
  intro heq
  have hten : (10 : ℝ) ^ k = 5 ^ k * (2 : ℝ) ^ (k : ℤ) := by
    rw [zpow_natCast, ← mul_pow]
    norm_num
  rw [div_eq_iff (by positivity), hten] at heq
  have hscaled : (d : ℝ) = ((n * 5 ^ k : ℕ) : ℝ) * (2 : ℝ) ^ (t + k) := by
    rw [heq, zpow_add₀ (by norm_num)]
    push_cast
    ring
  have hpow : 0 < 5 ^ k := by positivity
  rcases le_or_gt 0 (t + k) with hnonneg | hneg
  · obtain ⟨j, hj⟩ := Int.eq_ofNat_of_zero_le hnonneg
    rw [hj, zpow_natCast] at hscaled
    have hexact : d = n * 5 ^ k * 2 ^ j := by exact_mod_cast hscaled
    have hle : n ≤ n * (5 ^ k * 2 ^ j) := Nat.le_mul_of_pos_right n (by positivity)
    rw [← mul_assoc] at hle
    omega
  · obtain ⟨j, hj⟩ := Int.eq_ofNat_of_zero_le (a := -(t + k) - 1) (by omega)
    have hexponent : t + k = -((j + 1 : ℕ) : ℤ) := by
      push_cast
      omega
    rw [hexponent, zpow_neg, ← div_eq_mul_inv, eq_div_iff (by positivity), zpow_natCast] at hscaled
    have hexact : d * 2 ^ (j + 1) = n * 5 ^ k := by exact_mod_cast hscaled
    have hodd' : Odd (n * 5 ^ k) := hodd.mul (Odd.pow (by decide))
    rw [← hexact, pow_succ, ← mul_assoc] at hodd'
    exact absurd hodd' (Nat.not_odd_iff_even.mpr (even_two.mul_left _))

/-- The ends of the interval of a full mantissa are too fine for such a quotient. -/
theorem quotient_ne_ends {d k : ℕ} (hd : d ≤ 2 ^ 53) (hm : 2 ^ 52 ≤ m) (he : -1074 < e) :
    (d : ℝ) / 10 ^ k ≠ (m - quartersBelow m e / 4) * 2 ^ e ∧ (d : ℝ) / 10 ^ k ≠ (m + 1 / 2) * 2 ^ e := by
  constructor
  · unfold quartersBelow
    split_ifs with hpower
    · have hend : (m - (1 : ℕ) / 4) * (2 : ℝ) ^ e = ((2 ^ 54 - 1 : ℕ) : ℝ) * (2 : ℝ) ^ (e - 2) := by
        rw [hpower.1, zpow_sub₀ (by norm_num)]
        norm_num
        ring
      rw [hend]
      exact div_pow_ne_odd_mul hd (by norm_num) (by decide) _
    · have hend : (m - (2 : ℕ) / 4) * (2 : ℝ) ^ e = ((2 * m - 1 : ℕ) : ℝ) * (2 : ℝ) ^ (e - 1) := by
        rw [mul_two_zpow]
        push_cast [show 1 ≤ 2 * m by omega]
        ring
      have hnot : m ≠ 2 ^ 52 := fun heq => hpower ⟨heq, he⟩
      rw [hend]
      exact div_pow_ne_odd_mul hd (by omega) (Nat.Even.sub_odd (by omega) (even_two_mul m) odd_one) _
  · have hend : (m + 1 / 2) * (2 : ℝ) ^ e = ((2 * m + 1 : ℕ) : ℝ) * (2 : ℝ) ^ (e - 1) := by
      rw [mul_two_zpow]
      push_cast
      ring
    rw [hend]
    exact div_pow_ne_odd_mul hd (by omega) ⟨m, rfl⟩ _

end RegexInference.Binary64

namespace RegexInference.Decimal

open Json Binary64

variable {x : Float} {negative : Bool} {m : ℕ} {e : ℤ}

/-! ## One division -/

/-- As it is read, the decimal has no more digits than a mantissa holds, and its power of ten is
represented exactly. -/
def Scaled.IsShort (s : Scaled) : Prop := s.digits ≤ 2 ^ 53 ∧ -22 ≤ s.exponent ∧ s.exponent < 0

instance (s : Scaled) : Decidable s.IsShort := inferInstanceAs (Decidable (_ ∧ _))

theorem real_toFloat {n : ℕ} (hn : n ≤ 2 ^ 53) :
    n.toUInt64.toFloat.isFinite = true ∧ real n.toUInt64.toFloat = n := by
  have hcount : n.toUInt64.toNat = n := by
    rw [UInt64.toNat_ofNat']
    omega
  have hrounds := toFloat_rounds n.toUInt64
  rw [hcount] at hrounds
  exact hrounds.real_eq (representable_natCast hn) (natCast_lt_limit (by omega))

theorem ten_pow_le {k : ℕ} (hk : k ≤ 22) : (10 : ℝ) ^ k ≤ 2 ^ 88 := by
  calc
    (10 : ℝ) ^ k ≤ 10 ^ 22 := pow_le_pow_right₀ (by norm_num) hk
    _ ≤ 16 ^ 22 := pow_le_pow_left₀ (by norm_num) (by norm_num) 22
    _ = 2 ^ 88 := by norm_num

/-- A power of ten is one of five with a larger exponent, and those of five are small enough. -/
theorem representable_ten_pow {k : ℕ} (hk : k ≤ 22) : Representable ((10 : ℝ) ^ k) := by
  have hfive : 5 ^ k ≤ 2 ^ 53 := (Nat.pow_le_pow_right (by decide) hk).trans (by norm_num)
  have hten : (10 : ℝ) ^ k = ((5 ^ k : ℕ) : ℝ) * (2 : ℝ) ^ (k : ℤ) := by
    rw [zpow_natCast, Nat.cast_pow, ← mul_pow]
    norm_num
  rw [hten]
  exact representable_of_le hfive (by omega)

theorem real_powerOfTen {k : ℕ} (hk : k ≤ 22) :
    (powerOfTen k).isFinite = true ∧ real (powerOfTen k) = 10 ^ k := by
  have hcount : ∀ k < 23, powerOfTen k = Float.ofNat (10 ^ k) := by decide +kernel
  have hrounds := ofNat_rounds (10 ^ k)
  rw [← hcount k (by omega), Nat.cast_pow, Nat.cast_ofNat] at hrounds
  refine hrounds.real_eq (representable_ten_pow hk) (lt_limit_of_le_pow ?_)
  rw [abs_of_pos (by positivity)]
  exact (ten_pow_le hk).trans (pow_le_pow_right₀ one_le_two (by norm_num))

theorem scaleByTen_neg {k : ℕ} (hpos : 0 < k) (hk : k ≤ 22) (fuel : ℕ) (y : Float) :
    scaleByTen (fuel + 1) y (-k) = some (y / powerOfTen k) := by
  have habs : (-(k : ℤ)).natAbs = k := by omega
  unfold scaleByTen
  rw [if_pos (by omega), if_neg (by omega), habs]

/-- A short decimal is scaled by one division, which is exact but for its rounding. -/
theorem Scaled.IsShort.scaled {s : Scaled} (h : s.IsShort) :
    ∃ y, scaleByTen 8 s.digits.toUInt64.toFloat s.exponent = some y ∧ y.isFinite = true ∧
      IsNearest s.toReal (real y) := by
  obtain ⟨hdigits, hlow, hhigh⟩ := h
  obtain ⟨k, hk⟩ := Int.eq_ofNat_of_zero_le (a := -s.exponent) (by omega)
  have hexponent : s.exponent = -k := by omega
  obtain ⟨hfinite, hreal⟩ := real_toFloat hdigits
  obtain ⟨hfinite', hreal'⟩ := real_powerOfTen (k := k) (by omega)
  have hrounds := div_rounds hfinite hfinite' (by rw [hreal']; positivity)
  have hvalue : real s.digits.toUInt64.toFloat / real (powerOfTen k) = s.toReal := by
    rw [hreal, hreal', Scaled.toReal, hexponent, zpow_neg, zpow_natCast, div_eq_mul_inv]
  rw [hvalue] at hrounds
  have hbound : |s.toReal| ≤ 2 ^ 1023 := by
    rw [Scaled.toReal, abs_of_nonneg (by positivity)]
    calc
      (s.digits : ℝ) * 10 ^ s.exponent ≤ 2 ^ 53 * 1 :=
        mul_le_mul (by exact_mod_cast hdigits) (zpow_le_one_of_nonpos₀ (by norm_num) hhigh.le)
          (by positivity) (by positivity)
      _ ≤ 2 ^ 1023 := by
        rw [mul_one]
        exact pow_le_pow_right₀ one_le_two (by norm_num)
  exact ⟨_, hexponent ▸ scaleByTen_neg (by omega) (by omega) 7 _, hrounds.isNearest hbound⟩

/-- A zero that is put behind the point does not change the number. -/
theorem toReal_asRead (s : Scaled) : s.asRead.toReal = s.toReal := by
  unfold Scaled.asRead
  split_ifs with hwhole
  · obtain ⟨k, hk⟩ := Int.eq_ofNat_of_zero_le hwhole.2
    rw [Scaled.toReal, Scaled.toReal, hk]
    push_cast
    rw [zpow_natCast, Int.toNat_natCast, zpow_neg, zpow_one]
    field_simp
  · rfl

theorem Scaled.IsShort.toReal_eq {s : Scaled} (h : s.asRead.IsShort) :
    ∃ k ≤ 22, s.toReal = (s.asRead.digits : ℝ) / 10 ^ k := by
  obtain ⟨-, hlow, hhigh⟩ := h
  obtain ⟨k, hk⟩ := Int.eq_ofNat_of_zero_le (a := -s.asRead.exponent) (by omega)
  have hexponent : s.asRead.exponent = -k := by omega
  refine ⟨k, by omega, ?_⟩
  rw [← toReal_asRead, Scaled.toReal, hexponent, zpow_neg, zpow_natCast, div_eq_mul_inv]

/-- A short decimal is too large for a number of the least exponent. -/
theorem least_lt_of_isShort {s : Scaled} (hlt : m < 2 ^ 53) (hlow : -1074 ≤ e)
    (hpos : 0 < s.toReal) (hhigh : s.toReal ≤ (m + 1 / 2) * 2 ^ e) (hshort : s.asRead.IsShort) :
    -1074 < e := by
  obtain ⟨k, hk, hreal⟩ := hshort.toReal_eq
  by_contra hleast
  obtain rfl : e = -1074 := by omega
  have hdigits : (1 : ℝ) ≤ s.asRead.digits := by
    rw [Nat.one_le_cast, Nat.one_le_iff_ne_zero]
    intro hzero
    rw [hreal, hzero, Nat.cast_zero, zero_div] at hpos
    exact lt_irrefl 0 hpos
  have hmantissa : (m : ℝ) + 1 / 2 ≤ 2 ^ 53 := by
    have hcast : (m : ℝ) + 1 ≤ 2 ^ 53 := by exact_mod_cast hlt
    linarith
  have htiny : (2 : ℝ) ^ (-1021 : ℤ) < 2 ^ (-88 : ℤ) := zpow_lt_zpow_right₀ (by norm_num) (by norm_num)
  have hleft : (2 : ℝ) ^ (-88 : ℤ) ≤ s.toReal := by
    rw [hreal, zpow_neg, ← one_div]
    exact div_le_div₀ (by positivity) hdigits (by positivity) (ten_pow_le hk)
  have hright : ((m : ℝ) + 1 / 2) * 2 ^ (-1074 : ℤ) ≤ 2 ^ (-1021 : ℤ) := by
    calc
      ((m : ℝ) + 1 / 2) * 2 ^ (-1074 : ℤ) ≤ 2 ^ 53 * 2 ^ (-1074 : ℤ) :=
        mul_le_mul_of_nonneg_right hmantissa (by positivity)
      _ = 2 ^ (-1021 : ℤ) := by
        rw [← zpow_natCast, ← zpow_add₀ (by norm_num)]
        norm_num
  linarith

/-- The decimal that is written of a number is short. -/
def HasShortDecimal (x : Float) : Prop :=
  ∃ negative m e, Reading.ofFloat x = .finite negative m e ∧ (shortest .even m e).asRead.IsShort

/-- A number whose decimal is short is read as it was written. -/
theorem HasShortDecimal.reread_eq (h : HasShortDecimal x) : reread x = .ok x := by
  obtain ⟨negative, m, e, hx, hshort⟩ := h
  have hparts := madeOf_of_ofFloat hx
  obtain ⟨y, hscaled, hfinite, hnearest⟩ := hshort.scaled
  have hreread : reread x = .ok (withSign negative y) := by
    unfold reread
    rw [hx]
    dsimp only
    rw [hscaled]
  suffices hy : Reading.ofFloat y = .finite false m e by
    have hsigned : Reading.ofFloat (withSign negative y) = .finite negative m e := by
      cases negative with
      | false => exact hy
      | true => exact ofFloat_neg hy
    rw [hreread, (madeOf_of_ofFloat hsigned).eq hparts]
  rcases Nat.eq_zero_or_pos m with rfl | hm
  · obtain rfl := exponent_of_ofFloat_zero hx
    have hzero : scaleByTen 8 (0 : ℕ).toUInt64.toFloat (-1) = some 0.0 := rfl
    obtain rfl : y = 0.0 := Option.some_inj.mp (hscaled.symm.trans hzero)
    rfl
  · obtain ⟨s, -, hu⟩ := unpack_of_ofFloat hx hm
    have hcanonical : IsCanonical (.finite .positive m e hm) := by
      have hform := (unpack_isCanonical x.toModel).1
      rwa [hu] at hform
    obtain ⟨hback, -⟩ := shortest_spec .even hm hparts.mantissa hparts.exponent.1 hparts.exponent.2
    have hleast := least_lt_of_isShort hparts.mantissa hparts.exponent.1
      (toReal_shortest_pos .even hm hparts.mantissa hparts.exponent) hback.high hshort
    have hfull : 2 ^ 52 ≤ m := hcanonical.2.2.resolve_right (by omega)
    obtain ⟨k, -, hreal⟩ := hshort.toReal_eq
    obtain ⟨hlow, hhigh⟩ := quotient_ne_ends hshort.1 hfull hleast (k := k)
    rw [← hreal] at hlow hhigh
    rw [toReal_asRead] at hnearest
    exact ofFloat_of_real hcanonical hfinite (eq_of_isNearest hcanonical hnearest
      (lt_of_le_of_ne hback.low hlow.symm) (lt_of_le_of_ne hback.high hhigh))

example : HasShortDecimal 17.25 := ⟨false, _, _, rfl, by decide⟩

end RegexInference.Decimal
