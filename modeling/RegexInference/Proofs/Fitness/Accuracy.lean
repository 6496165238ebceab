import RegexInference.Fitness
import RegexInference.Proofs.Float.Finite
import RegexInference.Proofs.Literals

/-!
# Percentages

The share of the texts that a pattern classifies correctly is a quotient of two counts in
floating-point numbers, rounded to a whole number.  As long as the counts are exact, only the
quotient is rounded before, and it is never moved across the half between two whole numbers: an
exact quotient below a half stays so far below it that there is room for a number in between.
-/

namespace RegexInference

namespace Binary64

/-- What is behind the point of a number needs no more digits than the number. -/
theorem Representable.sub_floor {x : ℝ} (h : Representable x) (hx : 0 ≤ x) :
    Representable (x - ⌊x⌋₊) := by
  obtain ⟨m, e, hm, he, habs⟩ := h
  rw [abs_of_nonneg hx] at habs
  rcases Int.le_total 0 e with hwhole | hsplit
  · obtain ⟨k, rfl⟩ := Int.eq_ofNat_of_zero_le hwhole
    have hnat : x = (m * 2 ^ k : ℕ) := by
      rw [habs]
      push_cast
      rfl
    rw [hnat, Nat.floor_natCast, sub_self]
    exact representable_zero
  · obtain ⟨k, hk⟩ := Int.eq_ofNat_of_zero_le (neg_nonneg.mpr hsplit)
    obtain rfl : e = -(k : ℤ) := by omega
    have hpos : (0 : ℝ) < 2 ^ k := by positivity
    have hquotient : x = (m : ℝ) / ((2 ^ k : ℕ) : ℝ) := by
      rw [habs, zpow_neg, zpow_natCast, ← div_eq_mul_inv]
      push_cast
      rfl
    have hrest : x - ⌊x⌋₊ = (m % 2 ^ k : ℕ) * (2 : ℝ) ^ (-(k : ℤ)) := by
      have hdivision : ((m % 2 ^ k + 2 ^ k * (m / 2 ^ k) : ℕ) : ℝ) = m := by
        rw [Nat.mod_add_div]
      push_cast at hdivision
      rw [hquotient, Nat.floor_div_eq_div, zpow_neg, zpow_natCast]
      push_cast
      field_simp
      linarith
    rw [hrest]
    exact representable_of_le ((Nat.mod_le _ _).trans hm.le) he

end Binary64

namespace Fitness

open Binary64

/-! ## Rounding to whole numbers -/

theorem real_half : real 0.5 = 1 / 2 := by
  have hunpack : (0.5 : Float).toModel.unpack =
      .finite .positive (2 ^ 52) (-53) (by positivity) := rfl
  rw [real_of_unpack hunpack, unit]
  norm_num

theorem floor_add_half {x : ℝ} (hx : 0 ≤ x) :
    ⌊x + 1 / 2⌋₊ = ⌊x⌋₊ + if 1 / 2 ≤ x - ⌊x⌋₊ then 1 else 0 := by
  have hlow := Nat.floor_le hx
  have hhigh := Nat.lt_floor_add_one x
  rw [Nat.floor_eq_iff (by linarith)]
  split_ifs with hhalf
  · push_cast
    exact ⟨by linarith, by linarith⟩
  · push_cast
    exact ⟨by linarith, by linarith⟩

/-- Cutting a share off and comparing what is behind the point with one half rounds it to the
nearest whole number. -/
theorem roundedShare_eq_floor {share : Float} (hfinite : share.isFinite = true)
    (hlow : 0 ≤ real share) (hhigh : real share ≤ 2 ^ 52) :
    roundedShare share = min 100 ⌊real share + 1 / 2⌋₊ := by
  have hwhole := toNat_toUInt64 hfinite hlow (hhigh.trans_lt (by norm_num))
  have hfloor : ⌊real share⌋₊ ≤ 2 ^ 52 := Nat.floor_le_of_le (by exact_mod_cast hhigh)
  have hrounds := toFloat_rounds share.toUInt64
  rw [hwhole] at hrounds
  obtain ⟨hwholefin, hwholereal⟩ := hrounds.real_eq
    (representable_natCast (hfloor.trans (by norm_num)))
    (natCast_lt_limit (hfloor.trans (by norm_num)))
  have hexact := sub_rounds hfinite hwholefin
  rw [hwholereal] at hexact
  obtain ⟨hrestfin, hrest⟩ := hexact.real_eq ((representable_real share).sub_floor hlow) (by
    have hbelow := Nat.floor_le hlow
    have habove := Nat.lt_floor_add_one (real share)
    rw [abs_of_nonneg (by linarith)]
    exact lt_limit_of_le_pow (le_trans (by linarith) (one_le_pow₀ one_le_two)))
  have hhalf : share - share.toUInt64.toFloat ≥ 0.5 ↔ 1 / 2 ≤ real share - ⌊real share⌋₊ := by
    rw [ge_iff_le, le_iff_real rfl hrestfin, real_half, hrest]
  unfold roundedShare
  dsimp only
  rw [floor_add_half hlow, hwhole]
  simp only [hhalf]

/-! ## Shares of counts -/

theorem real_hundred : real 100.0 = 100 := by
  have hunpack : (100.0 : Float).toModel.unpack =
      .finite .positive (25 * 2 ^ 48) (-46) (by positivity) := rfl
  rw [real_of_unpack hunpack, unit]
  norm_num

theorem representable_half_above {k : ℕ} (hk : k ≤ 100) : Representable (k + 1 / 2 : ℝ) := by
  have := representable_of_le (m := 2 * k + 1) (e := -1) (by omega) (by norm_num)
  convert this using 1
  push_cast
  ring

/-- A number next below a half. -/
theorem representable_below_half {k : ℕ} (hk : k ≤ 100) :
    Representable (k + 1 / 2 - 1 / 2 ^ 45 : ℝ) := by
  have := representable_of_le (m := k * 2 ^ 45 + 17592186044415) (e := -45) (by omega) (by norm_num)
  convert this using 1
  push_cast
  ring

/-- Between the share and a half above there is room for a number, so rounding does not reach the
half. -/
theorem floor_nearest_share {c n : ℕ} (hc : c ≤ n) (hn : 0 < n) (hsize : n < 2 ^ 44) {v : ℝ}
    (hv : IsNearest (100 * c / n) v) : ⌊v + 1 / 2⌋₊ = (200 * c + n) / (2 * n) := by
  let k := (200 * c + n) / (2 * n)
  have hmul : k * (2 * n) ≤ 200 * c + n := Nat.div_mul_le_self _ _
  have hnext : 200 * c + n + 1 ≤ (k + 1) * (2 * n) :=
    Nat.lt_mul_of_div_lt (Nat.lt_succ_self k) (by omega)
  have hk : k ≤ 100 := by
    by_contra hlt
    have : 101 * (2 * n) ≤ k * (2 * n) := Nat.mul_le_mul_right _ (by omega)
    omega
  have hpos : (0 : ℝ) < n := by exact_mod_cast hn
  have hmul' : (k : ℝ) * (2 * n) ≤ 200 * c + n := by exact_mod_cast hmul
  have hnext' : (200 : ℝ) * c + n + 1 ≤ (k + 1) * (2 * n) := by exact_mod_cast hnext
  have hlow : (k : ℝ) - 1 / 2 ≤ v := by
    rcases Nat.eq_zero_or_pos k with hzero | hkpos
    · have hnonneg : 0 ≤ v := hv.ge_of_ge representable_zero (by positivity)
      rw [hzero, Nat.cast_zero]
      linarith
    · have hhalf : ((k - 1 : ℕ) : ℝ) + 1 / 2 ≤ v := by
        apply hv.ge_of_ge (representable_half_above (by omega))
        rw [le_div_iff₀ hpos, Nat.cast_sub hkpos]
        push_cast
        linarith
      rw [Nat.cast_sub hkpos] at hhalf
      push_cast at hhalf
      linarith
  have hhigh : v ≤ k + 1 / 2 - 1 / 2 ^ 45 := by
    apply hv.le_of_le (representable_below_half hk)
    rw [div_le_iff₀ hpos]
    have hsize' : (n : ℝ) ≤ 2 ^ 44 := by exact_mod_cast hsize.le
    nlinarith
  rw [Nat.floor_eq_iff (by linarith [k.cast_nonneg (α := ℝ)])]
  constructor
  · linarith
  · have : (0 : ℝ) < 1 / 2 ^ 45 := by positivity
    linarith

theorem real_ofNat {n : ℕ} (hn : n ≤ 2 ^ 53) :
    (Float.ofNat n).isFinite = true ∧ real (Float.ofNat n) = n :=
  (ofNat_rounds n).real_eq (representable_natCast hn) (natCast_lt_limit (hn.trans (by norm_num)))

/-- Counts below the bound and their multiple by one hundred are exact, so only the quotient is
rounded. -/
theorem share_isNearest {c n : ℕ} (hc : c ≤ n) (hn : 0 < n) (hsize : n < 2 ^ 44) :
    (100.0 * Float.ofNat c / Float.ofNat n).isFinite = true ∧
      IsNearest (100 * c / n) (real (100.0 * Float.ofNat c / Float.ofNat n)) := by
  obtain ⟨hcfin, hcreal⟩ := real_ofNat (n := c) (by omega)
  obtain ⟨hnfin, hnreal⟩ := real_ofNat (n := n) (by omega)
  have hpos : (0 : ℝ) < n := by exact_mod_cast hn
  have hproduct := mul_rounds (x := 100.0) rfl hcfin
  rw [real_hundred, hcreal] at hproduct
  have hcast : (100 * c : ℝ) = ((100 * c : ℕ) : ℝ) := by push_cast; rfl
  obtain ⟨hproductfin, hproductreal⟩ := hproduct.real_eq
    (hcast ▸ representable_natCast (by omega)) (hcast ▸ natCast_lt_limit (by omega))
  have hquotient := div_rounds hproductfin hnfin (by rw [hnreal]; exact hpos.ne')
  rw [hproductreal, hnreal] at hquotient
  apply hquotient.isNearest
  rw [abs_of_nonneg (by positivity), div_le_iff₀ hpos]
  have hle : (c : ℝ) ≤ n := by exact_mod_cast hc
  have hlarge : (100 : ℝ) ≤ 2 ^ 1023 := le_trans (by norm_num : (100 : ℝ) ≤ 2 ^ 7)
    (pow_le_pow_right₀ one_le_two (by norm_num))
  calc
    100 * (c : ℝ) ≤ 100 * n := by linarith
    _ ≤ 2 ^ 1023 * n := mul_le_mul_of_nonneg_right hlarge hpos.le

/-- In floating-point numbers as in exact ones, the share of some of the texts is rounded to the
same percentage. -/
theorem roundedShare_eq_quotient {c n : ℕ} (hc : c ≤ n) (hn : 0 < n) (hsize : n < 2 ^ 44) :
    roundedShare (100.0 * Float.ofNat c / Float.ofNat n) = (200 * c + n) / (2 * n) := by
  obtain ⟨hfinite, hnearest⟩ := share_isNearest hc hn hsize
  have hpos : (0 : ℝ) < n := by exact_mod_cast hn
  have hle : (c : ℝ) ≤ n := by exact_mod_cast hc
  have hnonneg := hnearest.ge_of_ge representable_zero (by positivity)
  have hhundred : real (100.0 * Float.ofNat c / Float.ofNat n) ≤ (100 : ℕ) := by
    apply hnearest.le_of_le (representable_natCast (by norm_num))
    rw [div_le_iff₀ hpos]
    push_cast
    linarith
  have hbound : (200 * c + n) / (2 * n) ≤ 100 := by
    rw [Nat.div_le_iff_le_mul_add_pred (by omega)]
    omega
  rw [roundedShare_eq_floor hfinite hnonneg (hhundred.trans (by norm_num)),
    floor_nearest_share hc hn hsize hnearest, Nat.min_eq_right hbound]

/-! ## Percentages -/

variable {params : FitnessParams} {corpus : Corpus} {pattern : String} {p : Matcher}

/-- A percentage is one hundred at most. -/
theorem accuracy_le_hundred (params : FitnessParams) (corpus : Corpus) (pattern : String) :
    accuracy params corpus pattern ≤ 100 := by
  unfold accuracy
  split_ifs
  · exact Nat.zero_le _
  · cases Matcher.ofPattern pattern params.mode with
    | error => exact Nat.zero_le _
    | ok p => exact Nat.min_le_left _ _

theorem accuracy_of_size_eq_zero (hsize : corpus.size = 0) : accuracy params corpus pattern = 0 :=
  if_pos hsize

theorem accuracy_of_error {cause : PatternError}
    (hp : Matcher.ofPattern pattern params.mode = .error cause) :
    accuracy params corpus pattern = 0 := by
  unfold accuracy
  rw [hp]
  exact ite_self 0

theorem accuracy_of_ok (hp : Matcher.ofPattern pattern params.mode = .ok p)
    (hsome : 0 < corpus.size) : accuracy params corpus pattern =
      roundedShare (100.0 * Float.ofNat (correctCount corpus p) / Float.ofNat corpus.size) := by
  unfold accuracy
  rw [if_neg hsome.ne', hp]

theorem correctCount_le_size (corpus : Corpus) (p : Matcher) :
    correctCount corpus p ≤ corpus.size :=
  Nat.add_le_add List.countP_le_length List.countP_le_length

theorem accuracy_eq_quotient (hp : Matcher.ofPattern pattern params.mode = .ok p)
    (hsome : 0 < corpus.size) (hsize : corpus.size < 2 ^ 44) :
    accuracy params corpus pattern =
      (200 * correctCount corpus p + corpus.size) / (2 * corpus.size) := by
  rw [accuracy_of_ok hp hsome, roundedShare_eq_quotient (correctCount_le_size corpus p) hsome hsize]

/-- More correct texts out of as many do not lower the percentage. -/
theorem accuracy_mono {otherParams : FitnessParams} {other : Corpus} {otherPattern : String}
    {q : Matcher} (hp : Matcher.ofPattern pattern params.mode = .ok p)
    (hq : Matcher.ofPattern otherPattern otherParams.mode = .ok q)
    (hsize : corpus.size < 2 ^ 44) (hsame : other.size = corpus.size)
    (hmore : correctCount corpus p ≤ correctCount other q) :
    accuracy params corpus pattern ≤ accuracy otherParams other otherPattern := by
  rcases Nat.eq_zero_or_pos corpus.size with hnone | hsome
  · rw [accuracy_of_size_eq_zero hnone]
    exact Nat.zero_le _
  · rw [accuracy_eq_quotient hp hsome hsize,
      accuracy_eq_quotient hq (hsame ▸ hsome) (hsame ▸ hsize),
      hsame]
    exact Nat.div_le_div_right (by omega)

/-- What the percentage of a pattern says. -/
structure MeasuresShare (params : FitnessParams) (corpus : Corpus) (pattern : String) : Prop where
  /-- It is the exact share of the texts that are classified correctly, the good ones that are
  accepted and the bad ones that are not, in percent and rounded to the nearest whole number, a half
  upwards. -/
  quotient : ∀ p, Matcher.ofPattern pattern params.mode = .ok p → 0 < corpus.size →
    accuracy params corpus pattern =
      (200 * (corpus.positive.countP p.accepts + corpus.negative.countP (!p.accepts ·)) +
        corpus.size) / (2 * corpus.size)
  range : accuracy params corpus pattern ≤ 100
  /-- A pattern that classifies no fewer out of as many texts correctly has no lower percentage,
  whatever the other texts and parameters are. -/
  grows : ∀ p, Matcher.ofPattern pattern params.mode = .ok p →
    ∀ otherParams other otherPattern q, Matcher.ofPattern otherPattern otherParams.mode = .ok q →
      other.size = corpus.size → correctCount corpus p ≤ correctCount other q →
        accuracy params corpus pattern ≤ accuracy otherParams other otherPattern
  empty : corpus.size = 0 → accuracy params corpus pattern = 0
  refused : ∀ cause, Matcher.ofPattern pattern params.mode = .error cause →
    accuracy params corpus pattern = 0

/-- For fewer than 2^44 texts the percentage is that of exact arithmetic. -/
theorem accuracy_measuresShare (params : FitnessParams) (corpus : Corpus) (pattern : String)
    (hsize : corpus.size < 2 ^ 44) : MeasuresShare params corpus pattern where
  quotient _ hp hsome := accuracy_eq_quotient hp hsome hsize
  range := accuracy_le_hundred params corpus pattern
  grows _ hp _ _ _ _ hq hsame hmore := accuracy_mono hp hq hsize hsame hmore
  empty := accuracy_of_size_eq_zero
  refused _ hp := accuracy_of_error hp

/-- Two texts out of three are nearer to 67 percent than to 66. -/
theorem accuracy_measuresShare_two_thirds :
    MeasuresShare { mode := .classic } ⟨["a", "b"], ["b"]⟩ "a" ∧
      accuracy { mode := .classic } ⟨["a", "b"], ["b"]⟩ "a" = 67 := by
  have hshare := accuracy_measuresShare { mode := .classic } ⟨["a", "b"], ["b"]⟩ "a" (by decide)
  obtain ⟨p, hp, haccepts⟩ := (Matcher.escaped_matchesExactly (by decide : "a" ≠ "") rfl).classic
  have hb : p.accepts "b" = false := by simp [← Bool.not_eq_true, haccepts]
  have hcount : correctCount ⟨["a", "b"], ["b"]⟩ p = 2 := by
    simp [correctCount, haccepts, hb]
  exact ⟨hshare, (hshare.quotient p hp (by decide)).trans (by rw [← correctCount, hcount]; rfl)⟩

end Fitness

end RegexInference
