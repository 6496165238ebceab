import Mathlib.Data.EReal.Basic
import Mathlib.Algebra.Order.Field.Power
import Mathlib.Order.Compare
import RegexInference.Fitness
import RegexInference.Proofs.Float.Value

/-!
# The order of floating-point numbers

Numbers are compared by exponent and mantissa.  On canonical forms this is the order of the values,
with the infinities at both ends, so apart from what is not a number the comparisons are those of a
linear order.
-/

namespace RegexInference.Binary64

open Float.Model Float.Model.UnpackedFloat

/-- The place of a number on the line that ends with the two infinities. -/
noncomputable def extendedValue : UnpackedFloat → EReal
  | .infinity .positive => ⊤
  | .infinity .negative => ⊥
  | u => (value u : ℝ)

theorem magnitude_lt_of_exponent_lt {m n : ℕ} {e d : ℤ} (hm : m < 2 ^ 53)
    (hn : 2 ^ 52 ≤ n) (hed : e < d) : (m : ℝ) * (2 : ℝ) ^ e < n * (2 : ℝ) ^ d := by
  have hm' : (m : ℝ) < 2 ^ 53 := by exact_mod_cast hm
  have hn' : (2 : ℝ) ^ 52 ≤ n := by exact_mod_cast hn
  have hpow : (2 : ℝ) ^ (e + 1) ≤ (2 : ℝ) ^ d := zpow_le_zpow_right₀ (by norm_num) (by omega)
  calc
    (m : ℝ) * (2 : ℝ) ^ e < 2 ^ 53 * (2 : ℝ) ^ e :=
      mul_lt_mul_of_pos_right hm' (by positivity)
    _ = 2 ^ 52 * (2 : ℝ) ^ (e + 1) := by
      rw [zpow_add₀ (by norm_num : (2 : ℝ) ≠ 0)]
      ring
    _ ≤ n * (2 : ℝ) ^ d := mul_le_mul hn' hpow (by positivity) (by positivity)

/-- Exponent and mantissa in this order decide between two canonical magnitudes. -/
theorem compares_magnitude {s s' : Sign} {m n : ℕ} {e d : ℤ} {hm : 0 < m} {hn : 0 < n}
    (hu : IsCanonical (.finite s m e hm)) (hv : IsCanonical (.finite s' n d hn)) :
    ((compare e d).then (compare m n)).Compares
      ((m : ℝ) * (2 : ℝ) ^ e) (n * (2 : ℝ) ^ d) := by
  obtain ⟨hm53, he, hme⟩ := hu
  obtain ⟨hn53, hd, hnd⟩ := hv
  rcases lt_trichotomy e d with h | rfl | h
  · rw [compare_lt_iff_lt.mpr h]
    exact magnitude_lt_of_exponent_lt hm53 (hnd.resolve_right (by omega)) h
  · have hpos : (0 : ℝ) < (2 : ℝ) ^ e := by positivity
    rw [compare_eq_iff_eq.mpr rfl]
    change (compare m n).Compares _ _
    rcases lt_trichotomy m n with h | rfl | h
    · rw [compare_lt_iff_lt.mpr h]
      exact mul_lt_mul_of_pos_right (by exact_mod_cast h) hpos
    · rw [compare_eq_iff_eq.mpr rfl]
      rfl
    · rw [compare_gt_iff_gt.mpr h]
      exact mul_lt_mul_of_pos_right (by exact_mod_cast h) hpos
  · rw [compare_gt_iff_gt.mpr h]
    exact magnitude_lt_of_exponent_lt hn53 (hme.resolve_right (by omega)) h

theorem value_positive {m : ℕ} {e : ℤ} {hm : 0 < m} :
    value (.finite .positive m e hm) = m * (2 : ℝ) ^ e := by
  rw [value_finite, Sign.apply, Int.cast_natCast]

theorem value_negative {m : ℕ} {e : ℤ} {hm : 0 < m} :
    value (.finite .negative m e hm) = -(m * (2 : ℝ) ^ e) := by
  rw [value_finite, Sign.apply, Int.cast_neg, Int.cast_natCast, neg_mul]

theorem magnitude_pos {m : ℕ} {e : ℤ} (hm : 0 < m) : (0 : ℝ) < m * (2 : ℝ) ^ e := by
  have : (0 : ℝ) < (m : ℝ) := by exact_mod_cast hm
  positivity

theorem compares_coe {o : Ordering} {x y : ℝ} (h : o.Compares x y) :
    o.Compares (x : EReal) (y : EReal) := by
  cases o with
  | lt => exact EReal.coe_lt_coe_iff.mpr h
  | eq => exact congrArg _ h
  | gt => exact EReal.coe_lt_coe_iff.mpr h

/-- Magnitudes of one sign are compared by their exponents and mantissas. -/
theorem compare_finite_compares {s t : Sign} {m n : ℕ} {e d : ℤ} {hm : 0 < m} {hn : 0 < n}
    (hu : IsCanonical (.finite s m e hm)) (hv : IsCanonical (.finite t n d hn)) :
    ∃ o, UnpackedFloat.compare (.finite s m e hm) (.finite t n d hn) = some o ∧
      o.Compares (extendedValue (.finite s m e hm)) (extendedValue (.finite t n d hn)) := by
  have hmagnitude := compares_magnitude hu hv
  have hpos := magnitude_pos (e := e) hm
  have hpos' := magnitude_pos (e := d) hn
  cases s <;> cases t
  · refine ⟨_, rfl, compares_coe ?_⟩
    rw [value_negative, value_negative, Ordering.compares_swap]
    revert hmagnitude
    cases (compare e d).then (compare m n) with
    | lt => exact neg_lt_neg
    | eq => exact fun h => (congrArg _ h).symm
    | gt => exact neg_lt_neg
  · refine ⟨.lt, rfl, EReal.coe_lt_coe_iff.mpr ?_⟩
    rw [value_negative, value_positive]
    linarith
  · refine ⟨.gt, rfl, EReal.coe_lt_coe_iff.mpr ?_⟩
    rw [value_negative, value_positive]
    linarith
  · refine ⟨_, rfl, compares_coe ?_⟩
    rw [value_positive, value_positive]
    exact hmagnitude

/-- Comparison is the linear order of the extended values. -/
theorem compare_compares {u v : UnpackedFloat} (hu : IsCanonical u) (hv : IsCanonical v)
    (hun : u.isNaN = false) (hvn : v.isNaN = false) :
    ∃ o, UnpackedFloat.compare u v = some o ∧
      o.Compares (extendedValue u) (extendedValue v) := by
  cases u with
  | notANumber => cases hun
  | infinity s =>
      cases v with
      | notANumber => cases hvn
      | infinity t =>
          cases s <;> cases t
          · exact ⟨.eq, rfl, rfl⟩
          · exact ⟨.lt, rfl, bot_lt_top⟩
          · exact ⟨.gt, rfl, bot_lt_top⟩
          · exact ⟨.eq, rfl, rfl⟩
      | zero t =>
          cases s
          · exact ⟨.lt, rfl, EReal.bot_lt_coe _⟩
          · exact ⟨.gt, rfl, EReal.coe_lt_top _⟩
      | finite t n d hn =>
          cases s
          · exact ⟨.lt, rfl, EReal.bot_lt_coe _⟩
          · exact ⟨.gt, rfl, EReal.coe_lt_top _⟩
  | zero s =>
      cases v with
      | notANumber => cases hvn
      | infinity t =>
          cases t
          · exact ⟨.gt, rfl, EReal.bot_lt_coe _⟩
          · exact ⟨.lt, rfl, EReal.coe_lt_top _⟩
      | zero t => exact ⟨.eq, rfl, rfl⟩
      | finite t n d hn =>
          have hpos := magnitude_pos (e := d) hn
          cases t
          · refine ⟨.gt, rfl, EReal.coe_lt_coe_iff.mpr ?_⟩
            rw [value_negative, value_zero]
            linarith
          · refine ⟨.lt, rfl, EReal.coe_lt_coe_iff.mpr ?_⟩
            rw [value_positive, value_zero]
            exact hpos
  | finite s m e hm =>
      cases v with
      | notANumber => cases hvn
      | infinity t =>
          cases t
          · exact ⟨.gt, by cases s <;> rfl, EReal.bot_lt_coe _⟩
          · exact ⟨.lt, by cases s <;> rfl, EReal.coe_lt_top _⟩
      | zero t =>
          have hpos := magnitude_pos (e := e) hm
          cases s
          · refine ⟨.lt, rfl, EReal.coe_lt_coe_iff.mpr ?_⟩
            rw [value_negative, value_zero]
            linarith
          · refine ⟨.gt, rfl, EReal.coe_lt_coe_iff.mpr ?_⟩
            rw [value_positive, value_zero]
            exact hpos
      | finite t n d hn => exact compare_finite_compares hu hv

/-! ## Comparing numbers -/

/-- The place of a number on the line that ends with the two infinities. -/
noncomputable def level (x : Float) : EReal := extendedValue x.toModel.unpack

theorem exists_compares {x y : Float} (hx : x.isNaN = false) (hy : y.isNaN = false) :
    ∃ o, x.toModel.unpack.compare y.toModel.unpack = some o ∧
      o.Compares (level x) (level y) :=
  compare_compares (unpack_isCanonical x.toModel).1 (unpack_isCanonical y.toModel).1 hx hy

theorem lt_iff_level {x y : Float} (hx : x.isNaN = false) (hy : y.isNaN = false) :
    x < y ↔ level x < level y := by
  obtain ⟨o, ho, hcompares⟩ := exists_compares hx hy
  have hlt : x < y ↔ (x.toModel.unpack.compare y.toModel.unpack == some .lt) = true :=
    decide_eq_true_iff
  rw [hlt, ho, ← hcompares.eq_lt]
  simp

theorem le_iff_level {x y : Float} (hx : x.isNaN = false) (hy : y.isNaN = false) :
    x ≤ y ↔ level x ≤ level y := by
  obtain ⟨o, ho, hcompares⟩ := exists_compares hx hy
  have hle : x ≤ y ↔ (x.toModel.unpack.compare y.toModel.unpack).any (·.isLE) = true :=
    decide_eq_true_iff
  rw [hle, ho, ← not_lt, ← hcompares.eq_gt]
  cases o <;> simp

theorem beq_iff_level {x y : Float} (hx : x.isNaN = false) (hy : y.isNaN = false) :
    (x == y) = true ↔ level x = level y := by
  obtain ⟨o, ho, hcompares⟩ := exists_compares hx hy
  have hbeq : (x == y) = (x.toModel.unpack.compare y.toModel.unpack == some .eq) := rfl
  rw [hbeq, ho, ← hcompares.eq_eq]
  simp

theorem compare_of_isNaN {u v : UnpackedFloat} (h : u.isNaN = true ∨ v.isNaN = true) :
    u.compare v = none := by
  rcases h with h | h
  · cases u with
    | notANumber => rfl
    | infinity => cases h
    | zero => cases h
    | finite => cases h
  · cases v with
    | notANumber => cases u <;> rfl
    | infinity => cases h
    | zero => cases h
    | finite => cases h

/-- Only numbers can be less than others. -/
theorem isNaN_eq_false_of_lt {x y : Float} (h : x < y) : x.isNaN = false ∧ y.isNaN = false := by
  have hlt : (x.toModel.unpack.compare y.toModel.unpack == some .lt) = true :=
    decide_eq_true_iff.mp h
  by_contra hnan
  have hnone := compare_of_isNaN (u := x.toModel.unpack) (v := y.toModel.unpack) <| by
    by_contra hboth
    simp only [not_or, Bool.not_eq_true] at hboth
    exact hnan hboth
  rw [hnone] at hlt
  cases hlt

theorem isNaN_eq_false_of_beq {x y : Float} (h : (x == y) = true) :
    x.isNaN = false ∧ y.isNaN = false := by
  have hbeq : (x.toModel.unpack.compare y.toModel.unpack == some .eq) = true := h
  by_contra hnan
  have hnone := compare_of_isNaN (u := x.toModel.unpack) (v := y.toModel.unpack) <| by
    by_contra hboth
    simp only [not_or, Bool.not_eq_true] at hboth
    exact hnan hboth
  rw [hnone] at hbeq
  cases hbeq

theorem lt_trans {x y z : Float} (hxy : x < y) (hyz : y < z) : x < z := by
  obtain ⟨hx, hy⟩ := isNaN_eq_false_of_lt hxy
  obtain ⟨-, hz⟩ := isNaN_eq_false_of_lt hyz
  rw [lt_iff_level hx hz]
  exact ((lt_iff_level hx hy).mp hxy).trans ((lt_iff_level hy hz).mp hyz)

theorem le_of_lt {x y : Float} (h : x < y) : x ≤ y := by
  obtain ⟨hx, hy⟩ := isNaN_eq_false_of_lt h
  rw [le_iff_level hx hy]
  exact ((lt_iff_level hx hy).mp h).le

theorem le_refl {x : Float} (hx : x.isNaN = false) : x ≤ x :=
  (le_iff_level hx hx).mpr (le_rfl)

theorem le_trans {x y z : Float} (hx : x.isNaN = false) (hy : y.isNaN = false)
    (hz : z.isNaN = false) (hxy : x ≤ y) (hyz : y ≤ z) : x ≤ z := by
  rw [le_iff_level hx hz]
  exact ((le_iff_level hx hy).mp hxy).trans ((le_iff_level hy hz).mp hyz)

theorem le_of_not_lt {x y : Float} (hx : x.isNaN = false) (hy : y.isNaN = false)
    (h : ¬ x < y) : y ≤ x := by
  rw [le_iff_level hy hx]
  exact not_lt.mp (mt (lt_iff_level hx hy).mpr h)

theorem not_lt_of_le {x y : Float} (h : y ≤ x) : ¬ x < y := by
  intro hlt
  obtain ⟨hx, hy⟩ := isNaN_eq_false_of_lt hlt
  exact not_lt.mpr ((le_iff_level hy hx).mp h) ((lt_iff_level hx hy).mp hlt)

theorem lt_of_le_of_lt {x y z : Float} (hx : x.isNaN = false) (hxy : x ≤ y) (hyz : y < z) :
    x < z := by
  obtain ⟨hy, hz⟩ := isNaN_eq_false_of_lt hyz
  rw [lt_iff_level hx hz]
  exact ((le_iff_level hx hy).mp hxy).trans_lt ((lt_iff_level hy hz).mp hyz)

/-! ## The infinities -/

@[simp] theorem isNaN_infinity : Fitness.infinity.isNaN = false := rfl

@[simp] theorem isNaN_neg_infinity : (-Fitness.infinity).isNaN = false := rfl

@[simp] theorem level_infinity : level Fitness.infinity = ⊤ := rfl

@[simp] theorem level_neg_infinity : level (-Fitness.infinity) = ⊥ := rfl

theorem neg_infinity_lt_of_isPerfect {x : Float} (h : Fitness.isPerfect x = true) :
    -Fitness.infinity < x := by
  obtain ⟨hx, -⟩ := isNaN_eq_false_of_beq h
  rw [lt_iff_level isNaN_neg_infinity hx, level_neg_infinity,
    (beq_iff_level hx isNaN_infinity).mp h, level_infinity]
  exact bot_lt_top

theorem isPerfect_iff_level {x : Float} (hx : x.isNaN = false) :
    Fitness.isPerfect x = true ↔ level x = ⊤ :=
  beq_iff_level hx isNaN_infinity

theorem eq_infinity_of_extendedValue {u : UnpackedFloat} (h : extendedValue u = ⊤) :
    u = .infinity .positive := by
  cases u with
  | infinity s =>
      cases s with
      | positive => rfl
      | negative => exact absurd h bot_ne_top
  | notANumber | zero | finite => exact absurd h (EReal.coe_ne_top _)

/-- The score of a perfect classifier is one number, to the bit. -/
theorem isPerfect_iff {x : Float} : Fitness.isPerfect x = true ↔ x = Fitness.infinity := by
  constructor
  · intro h
    obtain ⟨hx, -⟩ := isNaN_eq_false_of_beq h
    have hlevel : level x = ⊤ := (isPerfect_iff_level hx).mp h
    obtain ⟨⟨bits, valid⟩⟩ := x
    have hunpack : UnpackedFloat.unpack Format.binary64 bits.toBitVec = .infinity .positive :=
      eq_infinity_of_extendedValue hlevel
    rw [unpack_of_components rfl rfl rfl] at hunpack
    obtain ⟨hpositive, hexponent, hmantissa⟩ := ofComponents_eq_infinity hunpack
    have hsign : @unpackSign Format.binary64 bits.toBitVec = 0#1 := by
      by_contra hnegative
      unfold Sign.ofBitVec at hpositive
      rw [if_neg hnegative] at hpositive
      cases hpositive
    have htoNat := toNat_eq_components bits.toBitVec
    rw [hsign, hexponent, hmantissa] at htoNat
    have hbits : bits = Fitness.infinity.toModel.toBits :=
      UInt64.toBitVec_inj.mp (BitVec.eq_of_toNat_eq htoNat)
    subst hbits
    rfl
  · rintro rfl
    rfl

theorem not_infinity_lt (x : Float) : ¬ Fitness.infinity < x := by
  intro h
  have hx := (isNaN_eq_false_of_lt h).2
  rw [lt_iff_level isNaN_infinity hx, level_infinity] at h
  exact not_top_lt h

theorem eq_infinity_of_le {x : Float} (hx : x.isNaN = false) (h : Fitness.infinity ≤ x) :
    x = Fitness.infinity := by
  rw [le_iff_level isNaN_infinity hx, level_infinity] at h
  exact isPerfect_iff.mp ((isPerfect_iff_level hx).mpr (top_le_iff.mp h))

theorem lt_infinity_of_lt {x y : Float} (h : x < y) : x < Fitness.infinity := by
  obtain ⟨hx, hy⟩ := isNaN_eq_false_of_lt h
  rw [lt_iff_level hx hy] at h
  rw [lt_iff_level hx isNaN_infinity, level_infinity]
  exact h.trans_le le_top

theorem not_lt_neg_infinity (x : Float) : ¬ x < -Fitness.infinity := by
  intro h
  have hx := (isNaN_eq_false_of_lt h).1
  rw [lt_iff_level hx isNaN_neg_infinity, level_neg_infinity] at h
  exact not_lt_bot h

end RegexInference.Binary64
