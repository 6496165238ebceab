import RegexInference.Proofs.Float.Reading
import RegexInference.Proofs.Genotype.Checked
import RegexInference.Proofs.Search.Setup

/-!
# Where the wheel of operators stops

A spin draws a number from zero up to the sum of all weights and takes the operator between whose
running sums it lies.  All of this is rounded.  The running sums never decrease, and the number that
is drawn stays below the last of them, however small that is; so nothing falls into the section of
an operator whose weight is zero.
-/

namespace RegexInference

open Binary64 Float.Model.UnpackedFloat RegexInference.Random

namespace OperatorWheel

/-! ## The number drawn -/

theorem toNat_shiftRight_lt (word : UInt64) : (word >>> 12).toNat < 2 ^ 52 := by
  have hlt : word.toNat < 2 ^ 64 := word.toNat_lt
  rw [UInt64.toNat_shiftRight, Nat.shiftRight_eq_div_pow]
  exact Nat.div_lt_of_lt_mul hlt

theorem real_fraction (word : UInt64) :
    (fraction word).isFinite = true ∧
      real (fraction word) = (word >>> 12).toNat / (2 : ℝ) ^ 52 := by
  have hword := toNat_shiftRight_lt word
  have hwidth : real 4503599627370496.0 = 2 ^ 52 := by
    have hunpack : (4503599627370496.0 : Float).toModel.unpack =
        .finite .positive (2 ^ 52) 0 (by positivity) := rfl
    rw [real_of_unpack hunpack, unit]
    norm_num
  obtain ⟨hfinite, hreal⟩ := (toFloat_rounds (word >>> 12)).real_eq
    (representable_natCast (by omega)) (natCast_lt_limit (by omega))
  have hquotient := div_rounds (y := 4503599627370496.0) hfinite rfl
    (by rw [hwidth]; positivity)
  rw [hreal, hwidth] at hquotient
  have hexact : ((word >>> 12).toNat : ℝ) / (2 : ℝ) ^ 52 =
      (word >>> 12).toNat * (2 : ℝ) ^ (-52 : ℤ) := by
    rw [zpow_neg, div_eq_mul_inv]
    rfl
  apply hquotient.real_eq
  · rw [hexact]
    exact representable_of_le (by omega) (by norm_num)
  · have hone : ((word >>> 12).toNat : ℝ) / (2 : ℝ) ^ 52 ≤ 1 := by
      rw [div_le_one (by positivity)]
      exact_mod_cast hword.le
    rw [abs_of_nonneg (by positivity)]
    exact lt_limit_of_le_pow (hone.trans (one_le_pow₀ one_le_two))

theorem maxFraction_eq : maxFraction = fraction 0xFFFFFFFFFFFFFFFF := rfl

theorem fraction_bounds (word : UInt64) : 0 ≤ real (fraction word) ∧ real (fraction word) ≤ 1 := by
  have hword : ((word >>> 12).toNat : ℝ) ≤ (2 : ℝ) ^ 52 := by
    exact_mod_cast (toNat_shiftRight_lt word).le
  rw [(real_fraction word).2]
  exact ⟨by positivity, div_le_one_of_le₀ hword (by positivity)⟩

theorem fraction_eq_or_lt (word : UInt64) :
    fraction word = maxFraction ∨ real (fraction word) < real maxFraction := by
  have hword := toNat_shiftRight_lt word
  have hmax : ((0xFFFFFFFFFFFFFFFF : UInt64) >>> 12).toNat = 2 ^ 52 - 1 := rfl
  rw [maxFraction_eq]
  by_cases hlast : (word >>> 12).toNat = 2 ^ 52 - 1
  · left
    have hsame : word >>> 12 = (0xFFFFFFFFFFFFFFFF : UInt64) >>> 12 :=
      UInt64.toNat_inj.mp (hlast.trans hmax.symm)
    rw [fraction, hsame, fraction]
  · right
    rw [(real_fraction word).2, (real_fraction _).2, hmax]
    apply div_lt_div_of_pos_right _ (by positivity)
    exact_mod_cast (by omega : (word >>> 12).toNat < 2 ^ 52 - 1)

/-! ## The factor -/

theorem nextBelow_bounds {x : Float} (hx : x.isFinite = true) (hpos : 0 < real x) :
    (nextBelow x).isFinite = true ∧ 0 ≤ real (nextBelow x) ∧ real (nextBelow x) < real x := by
  obtain ⟨m, e, hm, hnormal, hread⟩ := exists_ofFloat_of_pos hx hpos
  obtain ⟨hbits, hmantissa, hexponent⟩ := madeOf_of_ofFloat hread
  have hbefore : (x.toBits - 1).toNat = x.toBits.toNat - 1 :=
    UInt64.toNat_sub_of_le _ _ (UInt64.le_iff_toNat_le.mpr (by simp; omega))
  rw [hbits, Bool.toNat_false, zero_mul, zero_add] at hbefore
  rw [(real_of_ofFloat hread).2]
  by_cases hstep : 2 ^ 52 < m ∨ e = -1074
  · have hread' : Decimal.Reading.ofFloat (nextBelow x) = .finite false (m - 1) e :=
      ofFloat_ofBits (by omega) (by omega) hexponent (by omega)
    obtain ⟨hfinite, hreal⟩ := real_of_ofFloat hread'
    rw [hreal]
    refine ⟨hfinite, by positivity, mul_lt_mul_of_pos_right ?_ (by positivity)⟩
    exact_mod_cast (by omega : m - 1 < m)
  · obtain rfl : m = 2 ^ 52 := by omega
    have hread' : Decimal.Reading.ofFloat (nextBelow x) = .finite false (2 ^ 53 - 1) (e - 1) :=
      ofFloat_ofBits (by omega) (by omega) (by omega) (by omega)
    obtain ⟨hfinite, hreal⟩ := real_of_ofFloat hread'
    rw [hreal]
    refine ⟨hfinite, by positivity, ?_⟩
    calc
      ((2 ^ 53 - 1 : ℕ) : ℝ) * (2 : ℝ) ^ (e - 1) < 2 ^ 53 * (2 : ℝ) ^ (e - 1) :=
        mul_lt_mul_of_pos_right (by norm_num) (by positivity)
      _ = ((2 ^ 52 : ℕ) : ℝ) * (2 : ℝ) ^ e := by
        rw [zpow_sub_one₀ two_ne_zero]
        push_cast
        ring

theorem maxFraction_bounds :
    maxFraction.isFinite = true ∧ 0 ≤ real maxFraction ∧ real maxFraction ≤ 1 := by
  rw [maxFraction_eq]
  exact ⟨(real_fraction _).1, fraction_bounds _⟩

/-- One step down is enough, however small the total is. -/
theorem scaleFor_spec {total : Float} (htotal : total.isFinite = true) (hpos : 0 < real total) :
    (scaleFor total).isFinite = true ∧ 0 ≤ real (scaleFor total) ∧
      real (maxFraction * scaleFor total) < real total := by
  obtain ⟨hmax, hlow, hhigh⟩ := maxFraction_bounds
  unfold scaleFor
  by_cases hreached : total * maxFraction ≥ total
  · rw [if_pos hreached]
    obtain ⟨hfinite, hnonneg, hlt⟩ := nextBelow_bounds htotal hpos
    obtain ⟨-, -, hle⟩ := mul_bounds hmax hfinite hlow hhigh hnonneg
    exact ⟨hfinite, hnonneg, hle.trans_lt hlt⟩
  · obtain ⟨hfinite, -, -⟩ := mul_bounds hmax htotal hlow hhigh hpos.le
    rw [if_neg hreached]
    rw [Binary64.mul_comm, ge_iff_le, le_iff_real htotal hfinite, not_le] at hreached
    exact ⟨htotal, hpos.le, hreached⟩

/-- No number that is drawn reaches the total. -/
theorem drawn_bounds {total : Float} (htotal : total.isFinite = true) (hpos : 0 < real total)
    (word : UInt64) :
    (fraction word * scaleFor total).isFinite = true ∧
      0 ≤ real (fraction word * scaleFor total) ∧
      real (fraction word * scaleFor total) < real total := by
  obtain ⟨hscale, hnonneg, hbelow⟩ := scaleFor_spec htotal hpos
  obtain ⟨hlow, hhigh⟩ := fraction_bounds word
  have hfraction := (real_fraction word).1
  obtain ⟨hfinite, hdrawn, hle⟩ := mul_bounds hfraction hscale hlow hhigh hnonneg
  refine ⟨hfinite, hdrawn, ?_⟩
  rcases hnonneg.eq_or_lt with hzero | hwidth
  · rw [← hzero] at hle
    exact hle.trans_lt hpos
  · rcases fraction_eq_or_lt word with heq | hlt
    · rw [heq]
      exact hbelow
    · -- The rounded products keep the order of the exact ones.
      obtain ⟨hmax, hmaxLow, hmaxHigh⟩ := maxFraction_bounds
      obtain ⟨hproduct, -, -⟩ := mul_bounds hmax hscale hmaxLow hmaxHigh hnonneg
      have hexact : real (fraction word) * real (scaleFor total) <
          real maxFraction * real (scaleFor total) := mul_lt_mul_of_pos_right hlt hwidth
      have hrounded := IsNearest.le_of_lt ((mul_rounds hfraction hscale).nearest hfinite)
        ((mul_rounds hmax hscale).nearest hproduct) hexact
      exact hrounded.trans_lt hbelow

end OperatorWheel

/-! ## The sections -/

namespace Weights

/-- The weight that an operator is configured with. -/
def weightOf (w : Weights) : Operator → Float
  | .insert => w.insert
  | .delete => w.delete
  | .replace => w.replace
  | .duplicate => w.duplicate

/-- Where the section of an operator begins. -/
def before (w : Weights) : Operator → Float
  | .insert => 0.0
  | .delete => w.insert
  | .replace => w.insert + w.delete
  | .duplicate => w.insert + w.delete + w.replace

/-- Where the section of an operator ends. -/
def through (w : Weights) : Operator → Float
  | .insert => w.insert
  | .delete => w.insert + w.delete
  | .replace => w.insert + w.delete + w.replace
  | .duplicate => w.insert + w.delete + w.replace + w.duplicate

/-- The weights are in the order of the operators. -/
theorem toList_eq (w : Weights) : w.toList = Operator.table.map w.weightOf := rfl

theorem sum_eq_through (w : Weights) : w.sum = w.through .duplicate := w.sum_eq

/-- Weights that divide a wheel. -/
structure Divides (w : Weights) : Prop where
  isFinite : ∀ op, (w.weightOf op).isFinite = true
  nonneg : ∀ op, 0 ≤ real (w.weightOf op)
  total : (w.through .duplicate).isFinite = true

variable {w : Weights}

theorem real_before_insert : real (w.before .insert) = 0 := real_zero

theorem forall_mem_toList {P : Float → Prop} :
    (∀ x ∈ w.toList, P x) ↔ ∀ op, P (w.weightOf op) := by
  rw [toList_eq, List.forall_mem_map]
  exact ⟨fun h op => h op (by cases op <;> simp [Operator.table]), fun h op _ => h op⟩

theorem Divides.through_isFinite (h : w.Divides) (op : Operator) :
    (w.through op).isFinite = true := by
  have hthird := (isFinite_of_add h.total).1
  have hsecond := (isFinite_of_add hthird).1
  cases op with
  | insert => exact h.isFinite .insert
  | delete => exact hsecond
  | replace => exact hthird
  | duplicate => exact h.total

/-- No section ends before it begins, and one whose weight is zero ends where it begins. -/
theorem Divides.before_le_through (h : w.Divides) (op : Operator) :
    real (w.before op) ≤ real (w.through op) ∧
      (real (w.weightOf op) = 0 → real (w.through op) = real (w.before op)) := by
  cases op with
  | insert =>
      rw [real_before_insert]
      exact ⟨h.nonneg .insert, id⟩
  | delete =>
      exact real_le_add (h.through_isFinite .insert) (h.isFinite .delete)
        (h.through_isFinite .delete) (h.nonneg .delete)
  | replace =>
      exact real_le_add (h.through_isFinite .delete) (h.isFinite .replace)
        (h.through_isFinite .replace) (h.nonneg .replace)
  | duplicate =>
      exact real_le_add (h.through_isFinite .replace) (h.isFinite .duplicate)
        (h.through_isFinite .duplicate) (h.nonneg .duplicate)

/-- A section that anything falls into belongs to a positive weight. -/
theorem Divides.weightOf_pos (h : w.Divides) {op : Operator} {x : ℝ}
    (hx : real (w.before op) ≤ x ∧ x < real (w.through op)) : 0.0 < w.weightOf op := by
  rw [lt_iff_real rfl (h.isFinite op), real_zero]
  apply lt_of_le_of_ne (h.nonneg op)
  intro hzero
  have hempty := (h.before_le_through op).2 hzero.symm
  linarith

theorem Divides.total_nonneg (h : w.Divides) : 0 ≤ real (w.through .duplicate) := by
  have hsecond := (h.before_le_through .delete).1
  have hthird := (h.before_le_through .replace).1
  have hlast := (h.before_le_through .duplicate).1
  exact (h.nonneg .insert).trans (hsecond.trans (hthird.trans hlast))

theorem divides_iff :
    w.Divides ↔ (∀ x ∈ w.toList, 0.0 ≤ x) ∧ w.sum.isFinite = true := by
  rw [forall_mem_toList, sum_eq_through]
  constructor
  · intro h
    refine ⟨fun op => ?_, h.total⟩
    rw [le_iff_real rfl (h.isFinite op), real_zero]
    exact h.nonneg op
  · rintro ⟨hnonneg, htotal⟩
    obtain ⟨hthird, hduplicate⟩ := isFinite_of_add htotal
    obtain ⟨hsecond, hreplace⟩ := isFinite_of_add hthird
    obtain ⟨hinsert, hdelete⟩ := isFinite_of_add hsecond
    have hfinite : ∀ op, (w.weightOf op).isFinite = true := by
      intro op
      cases op <;> assumption
    refine ⟨hfinite, fun op => ?_, htotal⟩
    have hle := hnonneg op
    rw [le_iff_real rfl (hfinite op), real_zero] at hle
    exact hle

end Weights

namespace OperatorWheel

variable {w : Weights} {wheel : OperatorWheel}

theorem ofWeights_eq_ok_iff :
    ofWeights w = .ok wheel ↔ w.Divides ∧ 0 < real (w.through .duplicate) ∧
      wheel = ⟨w.through .insert, w.through .delete, w.through .replace,
        scaleFor (w.through .duplicate)⟩ := by
  have hall : (w.toList.all (· ≥ 0.0)) = true ↔ ∀ x ∈ w.toList, 0.0 ≤ x := by
    simp only [List.all_eq_true, decide_eq_true_eq, ge_iff_le]
  have hzero (h : w.Divides) :
      (w.through .duplicate == 0.0) = true ↔ real (w.through .duplicate) = 0 := by
    rw [beq_iff_real h.total rfl, real_zero]
  unfold ofWeights
  dsimp only
  split_ifs with hnonneg hempty hfinite
  · refine iff_of_false (by simp) ?_
    rintro ⟨hdivides, hpos, -⟩
    exact hpos.ne' ((hzero hdivides).mp hempty)
  · have hdivides : w.Divides :=
      Weights.divides_iff.mpr ⟨hall.mp hnonneg, by rwa [Weights.sum_eq_through]⟩
    have hpos : 0 < real (w.through .duplicate) :=
      lt_of_le_of_ne hdivides.total_nonneg fun h => hempty ((hzero hdivides).mpr h.symm)
    rw [Except.ok.injEq, eq_comm]
    exact ⟨fun h => ⟨hdivides, hpos, h⟩, fun h => h.2.2⟩
  · refine iff_of_false (by simp) ?_
    rintro ⟨hdivides, -⟩
    exact hfinite hdivides.total
  · refine iff_of_false (by simp) ?_
    rintro ⟨hdivides, -⟩
    exact hnonneg (hall.mpr (Weights.divides_iff.mp hdivides).1)

/-- A word points at the operator whose section the number drawn falls into, if the running sums are
in order. -/
theorem pick_cases {word : UInt64} {x : Float} (hx : fraction word * wheel.scale = x)
    (hsecond : wheel.second ≤ x → wheel.first ≤ x) (hthird : wheel.third ≤ x → wheel.second ≤ x) :
    (wheel.pick word = .insert ∧ ¬ wheel.first ≤ x) ∨
      (wheel.pick word = .delete ∧ wheel.first ≤ x ∧ ¬ wheel.second ≤ x) ∨
      (wheel.pick word = .replace ∧ wheel.second ≤ x ∧ ¬ wheel.third ≤ x) ∨
      (wheel.pick word = .duplicate ∧ wheel.third ≤ x) := by
  have hpick (n : ℕ) (hn : wheel.passed word = n) (op : Operator)
      (hop : Operator.table[n]? = some op) : wheel.pick word = op := by
    rw [← hn, getElem?_passed] at hop
    exact Option.some.inj hop
  unfold passed at hpick
  rw [hx] at hpick
  by_cases h₁ : wheel.first ≤ x
  · by_cases h₂ : wheel.second ≤ x
    · by_cases h₃ : wheel.third ≤ x
      · exact .inr (.inr (.inr ⟨hpick 3 (by simp [h₁, h₂, h₃]) _ rfl, h₃⟩))
      · exact .inr (.inr (.inl ⟨hpick 2 (by simp [h₁, h₂, h₃]) _ rfl, h₂, h₃⟩))
    · have h₃ := mt hthird h₂
      exact .inr (.inl ⟨hpick 1 (by simp [h₁, h₂, h₃]) _ rfl, h₁, h₂⟩)
  · have h₂ := mt hsecond h₁
    have h₃ := mt hthird h₂
    exact .inl ⟨hpick 0 (by simp [h₁, h₂, h₃]) _ rfl, h₁⟩

/-- The number drawn lies in the section of the operator that is picked. -/
theorem pick_between (h : ofWeights w = .ok wheel) (word : UInt64) :
    real (w.before (wheel.pick word)) ≤ real (fraction word * wheel.scale) ∧
      real (fraction word * wheel.scale) < real (w.through (wheel.pick word)) := by
  obtain ⟨hdivides, hpos, hwheel⟩ := ofWeights_eq_ok_iff.mp h
  have hfirst : wheel.first = w.through .insert := congrArg first hwheel
  have hsecond : wheel.second = w.through .delete := congrArg second hwheel
  have hthird : wheel.third = w.through .replace := congrArg third hwheel
  have hscale : wheel.scale = scaleFor (w.through .duplicate) := congrArg scale hwheel
  obtain ⟨hfinite, hlow, hhigh⟩ := drawn_bounds hdivides.total hpos word
  have hcases := pick_cases (congrArg (fraction word * ·) hscale)
  have hle (op : Operator) := le_iff_real (hdivides.through_isFinite op) hfinite
  rw [hfirst, hsecond, hthird, hle, hle, hle] at hcases
  rw [hscale]
  rcases hcases (hdivides.before_le_through .delete).1.trans
    (hdivides.before_le_through .replace).1.trans with
    ⟨hop, hend⟩ | ⟨hop, hbegin, hend⟩ | ⟨hop, hbegin, hend⟩ | ⟨hop, hbegin⟩ <;> rw [hop]
  · rw [Weights.real_before_insert]
    exact ⟨hlow, not_le.mp hend⟩
  · exact ⟨hbegin, not_le.mp hend⟩
  · exact ⟨hbegin, not_le.mp hend⟩
  · exact ⟨hbegin, hhigh⟩

/-- A wheel is made exactly of weights that are finite, not negative and have a positive finite sum.
It never stops at an operator whose weight is zero, whatever is drawn. -/
theorem pick_weight_pos (w : Weights) :
    ((∃ wheel, ofWeights w = .ok wheel) ↔
      (∀ x ∈ w.toList, x.isFinite = true ∧ 0.0 ≤ x) ∧ 0.0 < w.sum ∧ w.sum.isFinite = true) ∧
    ∀ wheel, ofWeights w = .ok wheel →
      (∀ word, 0.0 < w.weightOf (wheel.pick word)) ∧
      ∀ (σ : Type) [Source σ],
        Ensures (wheel.spin : Draw σ Operator) fun op => 0.0 < w.weightOf op := by
  constructor
  · constructor
    · rintro ⟨wheel, h⟩
      obtain ⟨hdivides, hpos, -⟩ := ofWeights_eq_ok_iff.mp h
      obtain ⟨hnonneg, hsum⟩ := Weights.divides_iff.mp hdivides
      have hfinite : ∀ x ∈ w.toList, x.isFinite = true :=
        Weights.forall_mem_toList.mpr hdivides.isFinite
      refine ⟨fun x hx => ⟨hfinite x hx, hnonneg x hx⟩, ?_, hsum⟩
      rw [Weights.sum_eq_through, lt_iff_real rfl hdivides.total, real_zero]
      exact hpos
    · rintro ⟨hweights, hpos, hsum⟩
      have hdivides := Weights.divides_iff.mpr ⟨fun x hx => (hweights x hx).2, hsum⟩
      rw [Weights.sum_eq_through, lt_iff_real rfl hdivides.total, real_zero] at hpos
      exact ⟨_, ofWeights_eq_ok_iff.mpr ⟨hdivides, hpos, rfl⟩⟩
  · intro wheel h
    have hdivides := (ofWeights_eq_ok_iff.mp h).1
    have hpick (word : UInt64) := hdivides.weightOf_pos (pick_between h word)
    exact ⟨hpick, fun σ _ => (ensures_true _).map fun word _ => hpick word⟩

/-- The least total of all leaves no room to draw in, and its section is found all the same. -/
theorem pick_weight_pos_least :
    ∃ wheel, ofWeights ⟨0.0, 5e-324, 0.0, 0.0⟩ = .ok wheel ∧ ∀ word, wheel.pick word = .delete := by
  obtain ⟨hmade, hpick⟩ := pick_weight_pos ⟨0.0, 5e-324, 0.0, 0.0⟩
  obtain ⟨wheel, hwheel⟩ := hmade.mpr (by decide +kernel)
  refine ⟨wheel, hwheel, fun word => ?_⟩
  have hpos := (hpick wheel hwheel).1 word
  cases hop : wheel.pick word with
  | delete => rfl
  | insert | replace | duplicate =>
      rw [hop] at hpos
      exact absurd hpos (by decide)

end OperatorWheel

end RegexInference
