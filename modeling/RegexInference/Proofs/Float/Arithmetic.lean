import RegexInference.Proofs.Float.Order
import RegexInference.Proofs.Float.Rounding

/-!
# Arithmetic on finite numbers

Sums, differences, products and quotients of finite numbers, and the numbers that counts are turned
into, are exact results rounded once.  As long as a bound below 2¹⁰²⁴ holds for the exact result,
the outcome is finite and keeps to the bound.
-/

namespace RegexInference.Binary64

open Float.Model Float.Model.UnpackedFloat

/-! ## Signs -/

theorem unit_mul (s t : Sign) : unit (s * t) = unit s * unit t := by
  cases s with
  | negative =>
      cases t with
      | negative => exact (by norm_num : (1 : ℝ) = -1 * -1)
      | positive => exact (mul_one (-1 : ℝ)).symm
  | positive =>
      cases t with
      | negative => exact (one_mul (-1 : ℝ)).symm
      | positive => exact (one_mul (1 : ℝ)).symm

theorem unit_div (s t : Sign) : unit (s / t) = unit s / unit t := by
  have hinv : (unit t)⁻¹ = unit t := by
    cases t with
    | negative => norm_num [unit]
    | positive => norm_num [unit]
  have hdiv : s / t = s * t := by
    cases s <;> cases t <;> rfl
  rw [hdiv, unit_mul, div_eq_mul_inv, hinv]

theorem unit_neg (s : Sign) : unit (-s) = -unit s := by
  cases s with
  | negative => exact (neg_neg 1).symm
  | positive => rfl

theorem cast_apply (s : Sign) (n : ℤ) : ((s.apply n : ℤ) : ℝ) = unit s * n := by
  cases s with
  | negative => simp [Sign.apply, unit]
  | positive => simp [Sign.apply, unit]

/-! ## Forms -/

theorem representable_value {u : UnpackedFloat} (hu : IsCanonical u) : Representable (value u) := by
  cases u with
  | notANumber | infinity | zero => exact representable_zero
  | finite s m e hm =>
      obtain ⟨hlt, hle, -⟩ := hu
      rw [value_eq_unit_mul]
      cases s with
      | negative =>
          rw [unit, neg_one_mul]
          exact (representable_of_le hlt.le hle).neg
      | positive =>
          rw [unit, one_mul]
          exact representable_of_le hlt.le hle

theorem inRange_iff_value {u : UnpackedFloat} (hu : IsCanonical u) :
    InRange u ↔ |value u| < limit := by
  cases u with
  | notANumber | infinity | zero => exact iff_of_true trivial (abs_zero.trans_lt limit_pos)
  | finite s m e hm =>
      obtain ⟨hlt, hle, hnormal⟩ := hu
      rw [value_eq_unit_mul, abs_unit_mul s (magnitude_pos hm).le,
        ← lt_pow_iff_lt_limit hlt hnormal le_rfl (Or.inl rfl) (by norm_num) (by norm_num)]
      exact exponent_le_iff hlt hnormal

/-- A canonical form needs no rounding. -/
theorem IsRounded.self {u : UnpackedFloat} (hu : IsCanonical u) (hfinite : u.isFinite = true) :
    IsRounded (value u) u where
  canonical := hu
  finite := hfinite
  nearest := ⟨representable_value hu, by simp⟩
  inRange_iff := inRange_iff_value hu

theorem decreaseExponent_eq (m : ℕ) (e t : ℤ) :
    decreaseExponent m e t = (m * 2 ^ (e - t).toNat, e - (e - t).toNat) := by
  unfold decreaseExponent
  simp only [Nat.shiftLeft_eq]

theorem value_decreaseExponent (m : ℕ) (e t : ℤ) :
    ((decreaseExponent m e t).1 : ℝ) * (2 : ℝ) ^ (decreaseExponent m e t).2 = m * (2 : ℝ) ^ e := by
  have hpow : (2 : ℝ) ^ e = 2 ^ (e - t).toNat * (2 : ℝ) ^ (e - (e - t).toNat) := by
    rw [← zpow_natCast, ← zpow_add₀ (by norm_num)]
    congr 1
    ring
  rw [decreaseExponent_eq, hpow]
  push_cast
  ring

theorem log2_mul_pow {m : ℕ} (hm : 0 < m) (k : ℕ) : (m * 2 ^ k).log2 = m.log2 + k := by
  rw [Nat.log2_eq_iff (by positivity), pow_add, add_right_comm, pow_add]
  obtain ⟨hlow, hhigh⟩ := (Nat.log2_eq_iff (n := m) (by omega)).mp rfl
  exact ⟨Nat.mul_le_mul_right _ hlow, Nat.mul_lt_mul_of_pos_right hhigh (by positivity)⟩

theorem describes_exact : Describes .exact 0 := rfl

theorem round_isRounded (s : Sign) {m : ℕ} (hm : 0 < m) (e : ℤ) :
    IsRounded (unit s * (m * (2 : ℝ) ^ e)) (UnpackedFloat.round Format.binary64 s m e) := by
  have hcut : Format.binary64.targetExponent (totalExponent m e) = cutExponent m e :=
    targetExponent_eq m e
  unfold UnpackedFloat.round
  dsimp only
  rw [hcut]
  have hvalue := value_decreaseExponent m e (cutExponent m e)
  have hpos : 0 < (decreaseExponent m e (cutExponent m e)).1 := by
    rw [decreaseExponent_eq]
    positivity
  have hexponent : (decreaseExponent m e (cutExponent m e)).2 ≤
      cutExponent (decreaseExponent m e (cutExponent m e)).1
        (decreaseExponent m e (cutExponent m e)).2 := by
    rw [decreaseExponent_eq]
    dsimp only
    generalize hk : (e - cutExponent m e).toNat = k
    unfold cutExponent at hk ⊢
    rw [log2_mul_pow hm]
    omega
  generalize decreaseExponent m e (cutExponent m e) = lowered at hvalue hpos hexponent
  have := roundWithAccuracy_isRounded s describes_exact hexponent (Or.inl hpos)
  rwa [add_zero, hvalue] at this

theorem normalize_isRounded (n e : ℤ) (zeroSign : Sign) :
    IsRounded (n * (2 : ℝ) ^ e) (UnpackedFloat.normalize Format.binary64 n e zeroSign) := by
  unfold UnpackedFloat.normalize
  rcases lt_trichotomy n 0 with hn | rfl | hn
  · rw [compare_lt_iff_lt.mpr hn]
    have := round_isRounded .negative (m := (-n).toNat) (by omega) e
    have hcast : (((-n).toNat : ℕ) : ℝ) = -n := by
      exact_mod_cast Int.toNat_of_nonneg (by omega : 0 ≤ -n)
    rw [hcast, unit] at this
    convert this using 1
    ring
  · rw [compare_eq_iff_eq.mpr rfl]
    simpa using IsRounded.zero zeroSign
  · rw [compare_gt_iff_gt.mpr hn]
    have := round_isRounded .positive (m := n.toNat) (by omega) e
    have hcast : ((n.toNat : ℕ) : ℝ) = n := by
      exact_mod_cast Int.toNat_of_nonneg hn.le
    rw [hcast, unit, one_mul] at this
    exact this

/-! ## Operations -/

section

variable {s t : Sign} {m n : ℕ} {e d : ℤ} {hm : 0 < m} {hn : 0 < n}

theorem neg_finite : (UnpackedFloat.finite s m e hm).neg = .finite (-s) m e hm := rfl

theorem add_finite :
    UnpackedFloat.add Format.binary64 (.finite s m e hm) (.finite t n d hn) =
      UnpackedFloat.normalize Format.binary64 (s.apply (decreaseExponent m e (min e d)).1 +
        t.apply (decreaseExponent n d (min e d)).1) (min e d) .positive :=
  rfl

theorem sub_finite :
    UnpackedFloat.sub Format.binary64 (.finite s m e hm) (.finite t n d hn) =
      UnpackedFloat.normalize Format.binary64 (s.apply (decreaseExponent m e (min e d)).1 -
        t.apply (decreaseExponent n d (min e d)).1) (min e d) .positive :=
  rfl

theorem mul_finite :
    UnpackedFloat.mul Format.binary64 (.finite s m e hm) (.finite t n d hn) =
      roundWithAccuracy Format.binary64 (s * t) (m * n) (e + d) .exact :=
  rfl

theorem div_finite :
    UnpackedFloat.div Format.binary64 (.finite s m e hm) (.finite t n d hn) =
      let core := divCore Format.binary64 m e n d
      roundWithAccuracy Format.binary64 (s / t) core.1 core.2.1 core.2.2 :=
  rfl

end

variable {u v : UnpackedFloat}

theorem add_isRounded (hu : IsCanonical u) (hv : IsCanonical v) (hufin : u.isFinite = true)
    (hvfin : v.isFinite = true) :
    IsRounded (value u + value v) (UnpackedFloat.add Format.binary64 u v) := by
  cases u with
  | notANumber | infinity => cases hufin
  | zero s =>
      cases v with
      | notANumber | infinity => cases hvfin
      | zero t =>
          rw [value_zero, value_zero, add_zero]
          cases s <;> cases t <;> exact IsRounded.zero _
      | finite t n d hn =>
          rw [value_zero, zero_add]
          exact IsRounded.self hv rfl
  | finite s m e hm =>
      cases v with
      | notANumber | infinity => cases hvfin
      | zero t =>
          rw [value_zero, add_zero]
          exact IsRounded.self hu rfl
      | finite t n d hn =>
          have hleft := value_decreaseExponent m e (min e d)
          have hright := value_decreaseExponent n d (min e d)
          have hexponent : (decreaseExponent m e (min e d)).2 = min e d := by
            rw [decreaseExponent_eq]
            omega
          have hexponent' : (decreaseExponent n d (min e d)).2 = min e d := by
            rw [decreaseExponent_eq]
            omega
          rw [hexponent] at hleft
          rw [hexponent'] at hright
          rw [add_finite]
          have := normalize_isRounded (s.apply (decreaseExponent m e (min e d)).1 +
            t.apply (decreaseExponent n d (min e d)).1) (min e d) .positive
          rw [Int.cast_add, cast_apply, cast_apply, add_mul, mul_assoc, mul_assoc] at this
          rw [value_eq_unit_mul, value_eq_unit_mul, ← hleft, ← hright]
          exact_mod_cast this

theorem value_neg (u : UnpackedFloat) : value u.neg = -value u := by
  cases u with
  | notANumber | infinity | zero => exact neg_zero.symm
  | finite s m e hm =>
      rw [neg_finite, value_eq_unit_mul, value_eq_unit_mul, unit_neg, neg_mul]

theorem sub_eq_add_neg_form (u v : UnpackedFloat) :
    UnpackedFloat.sub Format.binary64 u v = UnpackedFloat.add Format.binary64 u v.neg := by
  cases u with
  | notANumber => rfl
  | infinity s => cases v <;> rfl
  | zero s => cases v <;> rfl
  | finite s m e hm =>
      cases v with
      | notANumber | infinity | zero => rfl
      | finite t n d hn =>
          have hneg : ∀ k : ℤ, (-t).apply k = -t.apply k := by
            intro k
            cases t with
            | negative => exact (neg_neg k).symm
            | positive => rfl
          rw [neg_finite, sub_finite, add_finite, hneg, Int.sub_eq_add_neg]

theorem sub_isRounded (hu : IsCanonical u) (hv : IsCanonical v) (hufin : u.isFinite = true)
    (hvfin : v.isFinite = true) :
    IsRounded (value u - value v) (UnpackedFloat.sub Format.binary64 u v) := by
  have hneg : IsCanonical v.neg := by
    cases v with
    | notANumber | infinity | zero => trivial
    | finite t n d hn => exact hv
  have hnegfin : v.neg.isFinite = true := by
    cases v with
    | notANumber | infinity => cases hvfin
    | zero | finite => rfl
  rw [sub_eq_add_neg_form, sub_eq_add_neg, ← value_neg]
  exact add_isRounded hu hneg hufin hnegfin

/-- A mantissa that fills its bits can be cut off where it stands. -/
theorem le_cutExponent {m : ℕ} {e : ℤ} (h : 2 ^ 52 ≤ m ∨ e ≤ -1074) : e ≤ cutExponent m e := by
  unfold cutExponent
  rcases h with hm | he
  · have hlog : 52 ≤ m.log2 := (Nat.le_log2 (by omega)).mpr hm
    omega
  · omega

theorem mul_isRounded (hu : IsCanonical u) (hv : IsCanonical v) (hufin : u.isFinite = true)
    (hvfin : v.isFinite = true) :
    IsRounded (value u * value v) (UnpackedFloat.mul Format.binary64 u v) := by
  cases u with
  | notANumber | infinity => cases hufin
  | zero s =>
      cases v with
      | notANumber | infinity => cases hvfin
      | zero t | finite t n d hn =>
          rw [value_zero, zero_mul]
          exact IsRounded.zero _
  | finite s m e hm =>
      cases v with
      | notANumber | infinity => cases hvfin
      | zero t =>
          rw [value_zero, mul_zero]
          exact IsRounded.zero _
      | finite t n d hn =>
          obtain ⟨-, hle, hnormal⟩ := hu
          obtain ⟨-, hle', hnormal'⟩ := hv
          have hexponent : e + d ≤ cutExponent (m * n) (e + d) := by
            apply le_cutExponent
            by_cases hbig : 2 ^ 52 ≤ m
            · exact Or.inl (hbig.trans (Nat.le_mul_of_pos_right m hn))
            · by_cases hbig' : 2 ^ 52 ≤ n
              · exact Or.inl (hbig'.trans (Nat.le_mul_of_pos_left n hm))
              · omega
          have := roundWithAccuracy_isRounded (s * t) describes_exact hexponent
            (Or.inl (Nat.mul_pos hm hn))
          rw [value_eq_unit_mul, value_eq_unit_mul]
          rw [mul_finite]
          rw [unit_mul, add_zero, zpow_add₀ (by norm_num)] at this
          push_cast at this
          convert this using 1
          ring

theorem mul_comm_form (u v : UnpackedFloat) :
    UnpackedFloat.mul Format.binary64 u v = UnpackedFloat.mul Format.binary64 v u := by
  have hsign : ∀ s t : Sign, s * t = t * s := by
    intro s t
    cases s <;> cases t <;> rfl
  cases u with
  | notANumber => cases v <;> rfl
  | infinity s =>
      cases v with
      | notANumber | zero => rfl
      | infinity | finite => exact congrArg infinity (hsign _ _)
  | zero s =>
      cases v with
      | notANumber | infinity => rfl
      | zero | finite => exact congrArg zero (hsign _ _)
  | finite s m e hm =>
      cases v with
      | notANumber => rfl
      | infinity => exact congrArg infinity (hsign _ _)
      | zero => exact congrArg zero (hsign _ _)
      | finite => rw [mul_finite, mul_finite, hsign, Nat.mul_comm, Int.add_comm]

theorem describes_accuracyOfFraction {k n : ℕ} (hkn : k < n) :
    Describes (accuracyOfFraction k n) ((k : ℝ) / n) := by
  have hn : (0 : ℝ) < n := by exact_mod_cast (Nat.zero_le k).trans_lt hkn
  have hlt : (k : ℝ) < n := by exact_mod_cast hkn
  unfold accuracyOfFraction
  by_cases hk : k = 0
  · rw [if_pos hk, hk]
    simp [Describes]
  · have hpos : (0 : ℝ) < k := by exact_mod_cast Nat.pos_of_ne_zero hk
    have hdouble : (k : ℝ) / n + k / n = 2 * k / n := by ring
    rw [if_neg hk]
    rcases lt_trichotomy (2 * k) n with h | h | h
    · have h' : 2 * (k : ℝ) < n := by exact_mod_cast h
      rw [compare_lt_iff_lt.mpr h]
      refine ⟨by positivity, ?_⟩
      rw [hdouble]
      exact (div_lt_one hn).mpr h'
    · have h' : 2 * (k : ℝ) = n := by exact_mod_cast h
      rw [compare_eq_iff_eq.mpr h]
      change (k : ℝ) / n + k / n = 1
      rw [hdouble]
      exact (div_eq_one_iff_eq hn.ne').mpr h'
    · have h' : (n : ℝ) < 2 * k := by exact_mod_cast h
      rw [compare_gt_iff_gt.mpr h]
      refine ⟨?_, (div_lt_one hn).mpr hlt⟩
      rw [hdouble]
      exact (one_lt_div hn).mpr h'

/-- A dividend that is longer by 53 bits leaves a quotient of at least 53 bits. -/
theorem pow_le_div {m n k : ℕ} (hn : 0 < n) (h : n.log2 + 53 ≤ m.log2 + k) (hm : 0 < m) :
    2 ^ 52 ≤ m * 2 ^ k / n := by
  rw [Nat.le_div_iff_mul_le hn]
  have hlow : 2 ^ (m.log2 + k) ≤ m * 2 ^ k := by
    rw [pow_add]
    exact Nat.mul_le_mul_right _ (Nat.log2_self_le (by omega))
  calc
    2 ^ 52 * n ≤ 2 ^ 52 * 2 ^ (n.log2 + 1) := Nat.mul_le_mul_left _ Nat.lt_log2_self.le
    _ = 2 ^ (n.log2 + 53) := by rw [← pow_add]; congr 1; omega
    _ ≤ 2 ^ (m.log2 + k) := Nat.pow_le_pow_right (by norm_num) h
    _ ≤ m * 2 ^ k := hlow

theorem divCore_eq (m n : ℕ) (e d : ℤ) :
    ∃ (k : ℕ) (t : ℤ), divCore Format.binary64 m e n d =
        (m * 2 ^ k / n, t, accuracyOfFraction (m * 2 ^ k % n) n) ∧
      t = e - d - k ∧ (t ≤ -1074 ∨ n.log2 + 53 ≤ m.log2 + k) := by
  have htarget : Format.binary64.targetExponent (totalExponent m e - totalExponent n d) =
      max (totalExponent m e - totalExponent n d - 53) (-1074) := rfl
  generalize ht : min (e - d) (max (totalExponent m e - totalExponent n d - 53) (-1074)) = t
  refine ⟨(e - d - t).toNat, t, ?_, by omega, ?_⟩
  · unfold divCore
    dsimp only
    rw [htarget, ht, Nat.shiftLeft_eq]
  · unfold totalExponent at ht
    omega

/-- A quotient is computed with enough bits to be rounded. -/
theorem divCore_spec {m n : ℕ} (hm : 0 < m) (hn : 0 < n) (e d : ℤ) :
    let core := divCore Format.binary64 m e n d
    ∃ f, Describes core.2.2 f ∧
      ((core.1 : ℝ) + f) * (2 : ℝ) ^ core.2.1 = m * (2 : ℝ) ^ e / (n * (2 : ℝ) ^ d) ∧
      core.2.1 ≤ cutExponent core.1 core.2.1 ∧ (0 < core.1 ∨ core.2.1 ≤ -1074) := by
  obtain ⟨k, t, hcore, ht, henough⟩ := divCore_eq m n e d
  have hfull : 2 ^ 52 ≤ m * 2 ^ k / n ∨ t ≤ -1074 := by
    rcases henough with hleast | hlog
    · exact Or.inr hleast
    · exact Or.inl (pow_le_div hn hlog hm)
  have hn' : (n : ℝ) ≠ 0 := by exact_mod_cast hn.ne'
  have hdivision : ((m * 2 ^ k / n : ℕ) : ℝ) + ((m * 2 ^ k % n : ℕ) : ℝ) / n = m * 2 ^ k / n := by
    have hsplit : (m : ℝ) * 2 ^ k = n * (m * 2 ^ k / n : ℕ) + (m * 2 ^ k % n : ℕ) := by
      exact_mod_cast (Nat.div_add_mod (m * 2 ^ k) n).symm
    rw [hsplit]
    field_simp
  rw [hcore]
  refine ⟨_, describes_accuracyOfFraction (Nat.mod_lt _ hn), ?_, le_cutExponent hfull, ?_⟩
  · have hpow : (2 : ℝ) ^ e = 2 ^ k * (2 : ℝ) ^ t * (2 : ℝ) ^ d := by
      rw [← zpow_natCast, ← zpow_add₀ (by norm_num), ← zpow_add₀ (by norm_num)]
      congr 1
      omega
    rw [hdivision, hpow]
    field_simp
  · rcases hfull with hfull | hleast
    · exact Or.inl (by omega)
    · exact Or.inr hleast

theorem div_isRounded (hu : IsCanonical u) (hufin : u.isFinite = true)
    (hvfin : v.isFinite = true) (hzero : value v ≠ 0) :
    IsRounded (value u / value v) (UnpackedFloat.div Format.binary64 u v) := by
  cases v with
  | notANumber | infinity => cases hvfin
  | zero t => exact absurd rfl hzero
  | finite t n d hn =>
      cases u with
      | notANumber | infinity => cases hufin
      | zero s =>
          rw [value_zero, zero_div]
          exact IsRounded.zero _
      | finite s m e hm =>
          obtain ⟨f, hf, hexact, hexponent, hfull⟩ := divCore_spec hm hn e d
          have := roundWithAccuracy_isRounded (s / t) hf hexponent hfull
          rw [hexact, unit_div] at this
          rw [value_eq_unit_mul, value_eq_unit_mul]
          rw [div_finite]
          convert this using 1
          ring

/-- A count becomes the number nearest to it. -/
theorem ofScientific_isRounded (n : ℕ) :
    IsRounded n (UnpackedFloat.ofScientific Format.binary64 n 0) := by
  have hbits : Format.binary64.mantissaBits = 53 := rfl
  have hpow : (0 : ℤ) < 2 ^ Format.binary64.exponentBits := by positivity
  rw [UnpackedFloat.ofScientific]
  by_cases hn : n = 0
  · rw [dif_pos hn, hn]
    simpa using IsRounded.zero .positive
  · rw [dif_neg hn, if_neg (by omega), if_neg (by omega), if_pos le_rfl]
    rw [mul_finite, hbits, Nat.shiftLeft_eq, Int.toNat_zero, pow_zero, mul_one, add_zero]
    have hexponent : (-(53 : ℕ) : ℤ) ≤ cutExponent (n * 2 ^ 53) (-(53 : ℕ)) := by
      apply le_cutExponent
      left
      calc
        2 ^ 52 ≤ 1 * 2 ^ 53 := by norm_num
        _ ≤ n * 2 ^ 53 := Nat.mul_le_mul_right _ (Nat.pos_of_ne_zero hn)
    have := roundWithAccuracy_isRounded (.positive * .positive) describes_exact hexponent
      (Or.inl (by positivity))
    rw [unit_mul, unit, one_mul, one_mul, add_zero] at this
    convert this using 1
    push_cast
    rw [zpow_neg, mul_assoc]
    norm_num

end RegexInference.Binary64
