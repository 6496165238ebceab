import Mathlib.Algebra.Order.Floor.Semifield
import RegexInference.Proofs.Float.Arithmetic

/-!
# Finite results

An operation on finite numbers has an exact result.  Below the limit the outcome is the number
nearest to it; from the limit on the outcome is infinite.  Operations on anything that is not finite
have no finite outcome, so what has once left the finite numbers does not come back.
-/

namespace RegexInference.Binary64

open Float.Model Float.Model.UnpackedFloat

/-- The number that a floating-point number stands for, and 0 for what is not finite. -/
noncomputable def real (x : Float) : ℝ := value x.toModel.unpack

theorem real_zero : real 0.0 = 0 := rfl

variable {x y : Float}

theorem isNaN_eq_false_of_isFinite (hx : x.isFinite = true) : x.isNaN = false := by
  change x.toModel.unpack.isFinite = true at hx
  change x.toModel.unpack.isNaN = false
  cases hu : x.toModel.unpack with
  | notANumber =>
      rw [hu] at hx
      cases hx
  | infinity | zero | finite => rfl

theorem level_eq_real (hx : x.isFinite = true) : level x = real x := by
  change x.toModel.unpack.isFinite = true at hx
  unfold level real
  cases hu : x.toModel.unpack with
  | notANumber | infinity =>
      rw [hu] at hx
      cases hx
  | zero | finite => rfl

theorem le_iff_real (hx : x.isFinite = true) (hy : y.isFinite = true) : x ≤ y ↔ real x ≤ real y := by
  rw [le_iff_level (isNaN_eq_false_of_isFinite hx) (isNaN_eq_false_of_isFinite hy),
    level_eq_real hx, level_eq_real hy, EReal.coe_le_coe_iff]

theorem lt_iff_real (hx : x.isFinite = true) (hy : y.isFinite = true) : x < y ↔ real x < real y := by
  rw [lt_iff_level (isNaN_eq_false_of_isFinite hx) (isNaN_eq_false_of_isFinite hy),
    level_eq_real hx, level_eq_real hy, EReal.coe_lt_coe_iff]

theorem beq_iff_real (hx : x.isFinite = true) (hy : y.isFinite = true) :
    (x == y) = true ↔ real x = real y := by
  rw [beq_iff_level (isNaN_eq_false_of_isFinite hx) (isNaN_eq_false_of_isFinite hy),
    level_eq_real hx, level_eq_real hy, EReal.coe_eq_coe_iff]

theorem abs_real_lt_limit (x : Float) : |real x| < limit := by
  obtain ⟨hcanonical, hrange⟩ := unpack_isCanonical x.toModel
  exact (inRange_iff_value hcanonical).mp hrange

theorem representable_real (x : Float) : Representable (real x) :=
  representable_value (unpack_isCanonical x.toModel).1

theorem lt_limit_of_le_pow {r : ℝ} (hr : r ≤ 2 ^ 1023) : r < limit := by
  refine hr.trans_lt ?_
  rw [limit_eq]
  calc
    (2 : ℝ) ^ 1023 = 2 ^ 53 * 2 ^ 970 := pow_add 2 53 970
    _ < (2 ^ 54 - 1) * 2 ^ 970 := mul_lt_mul_of_pos_right (by norm_num) (by positivity)

/-! ## Outcomes of operations -/

/-- What an exact result becomes. -/
structure Rounds (exact : ℝ) (y : Float) : Prop where
  isFinite_iff : y.isFinite = true ↔ |exact| < limit
  nearest : y.isFinite = true → IsNearest exact (real y)

theorem rounds_of_isRounded {exact : ℝ} {u : UnpackedFloat} (hu : IsRounded exact u)
    (hy : y.toModel.unpack = (Float.Model.pack u).unpack) : Rounds exact y := by
  have hfinite : y.isFinite = y.toModel.unpack.isFinite := rfl
  by_cases hrange : InRange u
  · rw [unpack_pack hu.canonical hrange] at hy
    refine ⟨iff_of_true ?_ (hu.inRange_iff.mp hrange), fun _ => ?_⟩
    · rw [hfinite, hy]
      exact hu.finite
    · rw [real, hy]
      exact hu.nearest
  · have hinfinite : y.isFinite = false := by
      rw [hfinite, hy]
      cases u with
      | notANumber | infinity | zero => exact absurd trivial hrange
      | finite s m e hm =>
          rw [unpack_pack_of_not_inRange (not_le.mp hrange)]
          rfl
    refine ⟨?_, by simp [hinfinite]⟩
    rw [← hu.inRange_iff]
    simp [hinfinite, hrange]

theorem add_rounds (hx : x.isFinite = true) (hy : y.isFinite = true) :
    Rounds (real x + real y) (x + y) :=
  rounds_of_isRounded (add_isRounded (unpack_isCanonical _).1 (unpack_isCanonical _).1 hx hy) rfl

theorem sub_rounds (hx : x.isFinite = true) (hy : y.isFinite = true) :
    Rounds (real x - real y) (x - y) :=
  rounds_of_isRounded (sub_isRounded (unpack_isCanonical _).1 (unpack_isCanonical _).1 hx hy) rfl

theorem mul_rounds (hx : x.isFinite = true) (hy : y.isFinite = true) :
    Rounds (real x * real y) (x * y) :=
  rounds_of_isRounded (mul_isRounded (unpack_isCanonical _).1 (unpack_isCanonical _).1 hx hy) rfl

theorem div_rounds (hx : x.isFinite = true) (hy : y.isFinite = true) (hzero : real y ≠ 0) :
    Rounds (real x / real y) (x / y) :=
  rounds_of_isRounded (div_isRounded (unpack_isCanonical _).1 hx hy hzero) rfl

/-- The number that an unpacked form stands for is read off once the form is known. -/
theorem real_of_unpack {s : Sign} {m : ℕ} {e : ℤ} {hm : 0 < m}
    (h : x.toModel.unpack = .finite s m e hm) : real x = unit s * (m * (2 : ℝ) ^ e) := by
  rw [real, h, value_eq_unit_mul]

theorem Rounds.real_eq {exact : ℝ} (h : Rounds exact y) (hexact : Representable exact)
    (hlimit : |exact| < limit) : y.isFinite = true ∧ real y = exact :=
  have hfinite := h.isFinite_iff.mpr hlimit
  ⟨hfinite, (h.nearest hfinite).eq_of_representable hexact⟩

theorem Rounds.isNearest {exact : ℝ} (h : Rounds exact y) (hexact : |exact| ≤ 2 ^ 1023) :
    y.isFinite = true ∧ IsNearest exact (real y) :=
  have hfinite := h.isFinite_iff.mpr (lt_limit_of_le_pow hexact)
  ⟨hfinite, h.nearest hfinite⟩

/-- A bound that is a number below the limit is kept. -/
theorem Rounds.abs_le {exact bound : ℝ} (h : Rounds exact y) (hexact : |exact| ≤ bound)
    (hbound : Representable bound) (hlimit : bound ≤ 2 ^ 1023) :
    y.isFinite = true ∧ |real y| ≤ bound :=
  have ⟨hfinite, hnearest⟩ := h.isNearest (hexact.trans hlimit)
  ⟨hfinite, hnearest.abs_le_of_abs_le hbound hexact⟩

/-- A sum with a number that is not negative does not get smaller, and stays the same if the number
is zero. -/
theorem real_le_add (hx : x.isFinite = true) (hy : y.isFinite = true)
    (hsum : (x + y).isFinite = true) (hnonneg : 0 ≤ real y) :
    real x ≤ real (x + y) ∧ (real y = 0 → real (x + y) = real x) := by
  have hnearest := (add_rounds hx hy).nearest hsum
  constructor
  · exact hnearest.ge_of_ge (representable_real x) (le_add_of_nonneg_right hnonneg)
  · intro hzero
    rw [hzero, add_zero] at hnearest
    exact hnearest.eq_of_representable (representable_real x)

/-- A fraction of a number is no greater than the number. -/
theorem mul_bounds (hx : x.isFinite = true) (hy : y.isFinite = true) (hlow : 0 ≤ real x)
    (hhigh : real x ≤ 1) (hnonneg : 0 ≤ real y) :
    (x * y).isFinite = true ∧ 0 ≤ real (x * y) ∧ real (x * y) ≤ real y := by
  have hexact : real x * real y ≤ real y := mul_le_of_le_one_left hnonneg hhigh
  have hpos : 0 ≤ real x * real y := mul_nonneg hlow hnonneg
  have hrounds := mul_rounds hx hy
  have hfinite : (x * y).isFinite = true := by
    rw [hrounds.isFinite_iff, abs_of_nonneg hpos]
    exact (hexact.trans (le_abs_self _)).trans_lt (abs_real_lt_limit y)
  have hnearest := hrounds.nearest hfinite
  exact ⟨hfinite, hnearest.ge_of_ge representable_zero hpos,
    hnearest.le_of_le (representable_real y) hexact⟩

protected theorem mul_comm (x y : Float) : x * y = y * x := by
  change Float.ofModel (Float.Model.pack (UnpackedFloat.mul Format.binary64 x.toModel.unpack
    y.toModel.unpack)) = _
  rw [mul_comm_form]
  rfl

theorem toFloat_rounds (n : UInt64) : Rounds n.toNat n.toFloat := by
  refine rounds_of_isRounded (u := UnpackedFloat.ofNat Format.binary64 n.toNat) ?_ rfl
  have := normalize_isRounded n.toNat 0 .positive
  rwa [zpow_zero, mul_one, Int.cast_natCast] at this

theorem representable_natCast {n : ℕ} (hn : n ≤ 2 ^ 53) : Representable n := by
  simpa using representable_of_le (e := 0) hn (by norm_num)

theorem natCast_lt_limit {n : ℕ} (hn : n ≤ 2 ^ 64) : |(n : ℝ)| < limit := by
  rw [Nat.abs_cast]
  have hn' : (n : ℝ) ≤ 2 ^ 64 := by exact_mod_cast hn
  exact lt_limit_of_le_pow (hn'.trans (pow_le_pow_right₀ one_le_two (by norm_num)))

/-- A count becomes the number nearest to it. -/
theorem ofNat_rounds (n : ℕ) : Rounds n (Float.ofNat n) := by
  unfold Float.ofNat
  change Rounds n (Float.ofScientific n false 0)
  unfold Float.ofScientific
  by_cases hsmall : n < 2 ^ 53 ∧ 0 ≤ 22
  · -- Small counts are converted and multiplied by one.
    have hone : real (Float.ofBits 0x3FF0000000000000) = 1 := by
      have hunpack : (Float.ofBits 0x3FF0000000000000).toModel.unpack =
          .finite .positive (2 ^ 52) (-52) (by positivity) := rfl
      rw [real_of_unpack hunpack, unit]
      norm_num
    have hcount : n.toUInt64.toNat = n := by
      rw [UInt64.toNat_ofNat']
      omega
    have hrounds := toFloat_rounds n.toUInt64
    rw [hcount] at hrounds
    obtain ⟨hfinite, hreal⟩ := hrounds.real_eq (representable_natCast (by omega))
      (natCast_lt_limit (by omega))
    have := mul_rounds hfinite (y := Float.ofBits 0x3FF0000000000000) rfl
    rw [hone, hreal, mul_one] at this
    rw [dif_pos hsmall]
    exact this
  · rw [dif_neg hsmall]
    exact rounds_of_isRounded (ofScientific_isRounded n) rfl

/-! ## What is not finite stays so -/

theorem isFinite_of_pack {u : UnpackedFloat} (hu : (Float.Model.pack u).unpack.isFinite = true) :
    u.isFinite = true := by
  cases u with
  | notANumber => cases hu
  | infinity s => cases s <;> cases hu
  | zero | finite => rfl

theorem isFinite_of_add_form {u v : UnpackedFloat}
    (h : (UnpackedFloat.add Format.binary64 u v).isFinite = true) :
    u.isFinite = true ∧ v.isFinite = true := by
  cases u with
  | notANumber => cases h
  | infinity s =>
      cases v with
      | notANumber | zero | finite => cases h
      | infinity t => cases s <;> cases t <;> cases h
  | zero | finite =>
      cases v with
      | notANumber | infinity => cases h
      | zero | finite => exact ⟨rfl, rfl⟩

theorem isFinite_of_mul_form {u v : UnpackedFloat}
    (h : (UnpackedFloat.mul Format.binary64 u v).isFinite = true) :
    u.isFinite = true ∧ v.isFinite = true := by
  cases u with
  | notANumber => cases h
  | infinity s =>
      cases v with
      | notANumber | infinity | zero | finite => cases h
  | zero | finite =>
      cases v with
      | notANumber | infinity => cases h
      | zero | finite => exact ⟨rfl, rfl⟩

theorem isFinite_of_add (h : (x + y).isFinite = true) : x.isFinite = true ∧ y.isFinite = true :=
  isFinite_of_add_form (isFinite_of_pack h)

theorem isFinite_of_sub (h : (x - y).isFinite = true) :
    x.isFinite = true ∧ y.isFinite = true := by
  have hsub : (UnpackedFloat.sub Format.binary64 x.toModel.unpack y.toModel.unpack).isFinite = true :=
    isFinite_of_pack h
  rw [sub_eq_add_neg_form] at hsub
  obtain ⟨hx, hneg⟩ := isFinite_of_add_form hsub
  refine ⟨hx, ?_⟩
  change y.toModel.unpack.isFinite = true
  cases hy : y.toModel.unpack with
  | notANumber | infinity =>
      rw [hy] at hneg
      cases hneg
  | zero | finite => rfl

theorem isFinite_of_mul (h : (x * y).isFinite = true) : x.isFinite = true ∧ y.isFinite = true :=
  isFinite_of_mul_form (isFinite_of_pack h)

/-! ## Negative zero -/

theorem unpack_neg_zero_add (x : Float) : (-0.0 + x).toModel.unpack = x.toModel.unpack := by
  obtain ⟨hcanonical, hrange⟩ := unpack_isCanonical x.toModel
  have hadd : UnpackedFloat.add Format.binary64 (.zero .negative) x.toModel.unpack =
      x.toModel.unpack := by
    cases x.toModel.unpack with
    | notANumber | infinity | finite => rfl
    | zero s => cases s <;> rfl
  change (Float.Model.pack (UnpackedFloat.add Format.binary64 (.zero .negative)
    x.toModel.unpack)).unpack = _
  rw [hadd, unpack_pack hcanonical hrange]

/-- A sum may begin with negative zero. -/
theorem neg_zero_add_add (x y : Float) : -0.0 + x + y = x + y := by
  change Float.ofModel (Float.Model.pack (UnpackedFloat.add Format.binary64
    (-0.0 + x).toModel.unpack y.toModel.unpack)) = _
  rw [unpack_neg_zero_add]
  rfl

/-! ## Truncation -/

theorem roundToInt_positive (m : ℕ) (e : ℤ) :
    roundToInt .positive m e = ⌊(m : ℝ) * (2 : ℝ) ^ e⌋₊ := by
  have hvalue := value_decreaseExponent m e 0
  have hexponent : (decreaseExponent m e 0).2 ≤ 0 := by
    rw [decreaseExponent_eq]
    dsimp only
    omega
  unfold roundToInt
  generalize decreaseExponent m e 0 = lowered at hvalue hexponent
  obtain ⟨m', e'⟩ := lowered
  dsimp only at hvalue hexponent ⊢
  rw [shiftToExponent_eq]
  change (((ExtendedMantissa.ofMantissaAndAccuracy m' .exact >>> (0 - e').toNat).mantissa : ℕ) : ℤ) = _
  rw [mantissa_shiftRight, mantissa_ofMantissaAndAccuracy, ← hvalue]
  have hpow : (m' : ℝ) * (2 : ℝ) ^ e' = (m' : ℝ) / ((2 ^ (0 - e').toNat : ℕ) : ℝ) := by
    push_cast
    rw [← zpow_natCast, div_eq_mul_inv, ← zpow_neg]
    congr 2
    omega
  rw [hpow, Nat.floor_div_eq_div]

/-- A number that is not negative and fits into a machine word is cut off there. -/
theorem toNat_toUInt64 {x : Float} (hfinite : x.isFinite = true) (hnonneg : 0 ≤ real x)
    (hlt : real x < 2 ^ 64) : x.toUInt64.toNat = ⌊real x⌋₊ := by
  have hform : x.toUInt64 = x.toModel.unpack.toUInt64 := rfl
  change x.toModel.unpack.isFinite = true at hfinite
  rw [hform]
  unfold real at *
  cases hu : x.toModel.unpack with
  | notANumber | infinity =>
      rw [hu] at hfinite
      cases hfinite
  | zero s =>
      rw [value_zero, Nat.floor_zero]
      rfl
  | finite s m e hm =>
      rw [hu, value_eq_unit_mul] at hnonneg hlt
      rw [value_eq_unit_mul]
      cases s with
      | negative =>
          rw [unit, neg_one_mul] at hnonneg
          exact absurd hnonneg (not_le.mpr (neg_neg_of_pos (magnitude_pos hm)))
      | positive =>
          rw [unit, one_mul] at hlt ⊢
          have hfloor : ⌊(m : ℝ) * (2 : ℝ) ^ e⌋₊ < 2 ^ 64 := by
            rw [Nat.floor_lt (magnitude_pos hm).le]
            exact_mod_cast hlt
          change (UInt64.ofNatClamp (roundToInt .positive m e).toNat).toNat = _
          rw [roundToInt_positive, Int.toNat_natCast]
          rw [UInt64.ofNatClamp, dif_pos (show _ < UInt64.size from hfloor)]
          rfl

end RegexInference.Binary64
