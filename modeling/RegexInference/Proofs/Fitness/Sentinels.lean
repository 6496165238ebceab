import RegexInference.Proofs.Float.Finite
import RegexInference.Proofs.Literals
import RegexInference.Proofs.Matching
import RegexInference.Proofs.Regex.Spans
import RegexInference.Proofs.Validation

/-!
# What the extreme scores tell

Minus infinity stands for a pattern that does not compile, plus infinity for a perfect classifier,
and every other score shall be a finite number.  Scores are computed with finite parameters, but
sums, products and differences of finite numbers need not stay finite.  The extreme scores mean what
they shall mean exactly if none of the results on the way to the score reaches the limit.
-/

namespace RegexInference.Fitness

open Binary64

/-- The extreme scores mean what they shall mean. -/
structure ScoreTells (params : FitnessParams) (corpus : Corpus) (pattern : String) : Prop where
  isNumber : (score params corpus pattern).isNaN = false
  least_iff : (score params corpus pattern == -infinity) = true ↔
    ∃ e, Matcher.ofPattern pattern params.mode = .error e
  greatest_iff : isPerfect (score params corpus pattern) = true ↔
    params.mode = .span ∧ ∃ p, Matcher.ofPattern pattern .span = .ok p ∧ separates corpus p = true

variable {params : FitnessParams} {corpus : Corpus} {pattern : String} {p : Matcher}

/-! ## Sums and products -/

/-- No partial sum reaches the limit. -/
def SumFits (rewards : List Float) : Prop :=
  ∀ front reward, front ++ [reward] <+: rewards → |real (total front) + real reward| < limit

/-- Neither a count nor its product with a factor reaches the limit. -/
def ProductFits (factor : Float) (count : ℕ) : Prop :=
  (count : ℝ) < limit ∧ |real factor * real (Float.ofNat count)| < limit

theorem total_concat (rewards : List Float) (reward : Float) :
    total (rewards ++ [reward]) = total rewards + reward := by
  unfold total
  rw [List.foldl_append]
  rfl

theorem sumFits_nil : SumFits [] := by
  intro front reward hprefix
  exact absurd (List.prefix_nil.mp hprefix) (by simp)

theorem sumFits_concat {rewards : List Float} {reward : Float} :
    SumFits (rewards ++ [reward]) ↔
      SumFits rewards ∧ |real (total rewards) + real reward| < limit := by
  unfold SumFits
  simp only [List.prefix_concat_iff]
  constructor
  · intro h
    exact ⟨fun front r hprefix => h front r (Or.inr hprefix), h rewards reward (Or.inl rfl)⟩
  · rintro ⟨hbefore, hlast⟩ front r (heq | hprefix)
    · obtain ⟨rfl, hr⟩ := List.append_inj' heq rfl
      cases hr
      exact hlast
    · exact hbefore front r hprefix

/-- A sum of finite rewards is finite if no partial sum reaches the limit. -/
theorem total_isFinite_iff {rewards : List Float} (hfinite : ∀ r ∈ rewards, r.isFinite = true) :
    (total rewards).isFinite = true ↔ SumFits rewards := by
  induction rewards using List.reverseRecOn with
  | nil => exact iff_of_true rfl sumFits_nil
  | append_singleton rewards reward ih =>
      have hreward : reward.isFinite = true := hfinite reward (by simp)
      have ih := ih fun r hr => hfinite r (List.mem_append_left _ hr)
      rw [total_concat, sumFits_concat, ← ih]
      constructor
      · intro h
        obtain ⟨htotal, -⟩ := isFinite_of_add h
        exact ⟨htotal, (add_rounds htotal hreward).isFinite_iff.mp h⟩
      · rintro ⟨htotal, hlast⟩
        exact (add_rounds htotal hreward).isFinite_iff.mpr hlast

theorem mul_ofNat_isFinite_iff {factor : Float} (hfactor : factor.isFinite = true) (count : ℕ) :
    (factor * Float.ofNat count).isFinite = true ↔ ProductFits factor count := by
  have hcount := (ofNat_rounds count).isFinite_iff
  rw [Nat.abs_cast] at hcount
  unfold ProductFits
  rw [← hcount]
  constructor
  · intro h
    obtain ⟨-, hfinite⟩ := isFinite_of_mul h
    exact ⟨hfinite, (mul_rounds hfactor hfinite).isFinite_iff.mp h⟩
  · rintro ⟨hfinite, hproduct⟩
    exact (mul_rounds hfactor hfinite).isFinite_iff.mpr hproduct

/-! ## The way to a score -/

/-- The rewards of the good and the bad texts. -/
def rewards (params : FitnessParams) (corpus : Corpus) (p : Matcher) : Float × Float :=
  match params.mode with
  | .classic => rewardsPerText params corpus p
  | .span => rewardsPerCharacter params corpus p

def price (params : FitnessParams) (pattern : String) : Float :=
  params.complexityPenalty * complexity pattern

/-- What remains of the rewards once the price is paid. -/
def weight (params : FitnessParams) (corpus : Corpus) (pattern : String) (p : Matcher) : Float :=
  (rewards params corpus p).1 + (rewards params corpus p).2 - price params pattern

/-- The pattern compiles, and neither of the ways to a fixed score is taken. -/
structure Weighed (params : FitnessParams) (corpus : Corpus) (pattern : String) (p : Matcher) :
    Prop where
  compiles : Matcher.ofPattern pattern params.mode = .ok p
  imperfect : ¬ (params.mode = .span ∧ separates corpus p = true)
  unclamped : ¬ (params.clampUnrewarded = true ∧ (rewards params corpus p).1 ≤ 0.0)

/-- The four ways to a score. -/
theorem score_cases (params : FitnessParams) (corpus : Corpus) (pattern : String) :
    (∃ e, Matcher.ofPattern pattern params.mode = .error e ∧
      score params corpus pattern = -infinity) ∨
    (∃ p, Matcher.ofPattern pattern params.mode = .ok p ∧
      (params.mode = .span ∧ separates corpus p = true) ∧
      score params corpus pattern = infinity) ∨
    (∃ p, Matcher.ofPattern pattern params.mode = .ok p ∧
      ¬ (params.mode = .span ∧ separates corpus p = true) ∧
      (params.clampUnrewarded = true ∧ (rewards params corpus p).1 ≤ 0.0) ∧
      score params corpus pattern = 0.0) ∨
    (∃ p, Weighed params corpus pattern p ∧
      score params corpus pattern = weight params corpus pattern p) := by
  cases hp : Matcher.ofPattern pattern params.mode with
  | error e =>
      refine Or.inl ⟨e, rfl, ?_⟩
      unfold score
      rw [hp]
  | ok p =>
      right
      by_cases hperfect : params.mode = .span ∧ separates corpus p = true
      · refine Or.inl ⟨p, rfl, hperfect, ?_⟩
        unfold score
        rw [hp, hperfect.1]
        exact if_pos hperfect.2
      · right
        have hscore : score params corpus pattern =
            balance params pattern (rewards params corpus p).1 (rewards params corpus p).2 := by
          unfold score rewards
          rw [hp]
          cases hmode : params.mode with
          | classic => rfl
          | span => exact if_neg fun hseparates => hperfect ⟨hmode, hseparates⟩
        rw [hscore]
        unfold balance
        by_cases hclamped : params.clampUnrewarded = true ∧ (rewards params corpus p).1 ≤ 0.0
        · refine Or.inl ⟨p, rfl, hperfect, hclamped, if_pos ?_⟩
          simpa using hclamped
        · refine Or.inr ⟨p, ⟨hp, hperfect, hclamped⟩, if_neg ?_⟩
          simpa using hclamped

/-- The rewards for some texts, one for those that are accepted and one for the others. -/
def perText (p : Matcher) (accepted rejected : Float) (texts : List String) : List Float :=
  texts.map fun s => if p.accepts s then accepted else rejected

theorem forall_mem_perText {P : Float → Prop} {accepted rejected : Float} {texts : List String}
    (haccepted : P accepted) (hrejected : P rejected) :
    ∀ r ∈ perText p accepted rejected texts, P r := by
  intro r hr
  obtain ⟨s, -, rfl⟩ := List.mem_map.mp hr
  split_ifs
  · exact haccepted
  · exact hrejected

/-- No result on the way to the rewards reaches the limit. -/
def RewardsFit (params : FitnessParams) (corpus : Corpus) (p : Matcher) : Prop :=
  match params.mode with
  | .classic =>
    SumFits (perText p params.correctnessBonus params.incorrectnessPenalty corpus.positive) ∧
    SumFits (perText p params.incorrectnessPenalty params.correctnessBonus corpus.negative)
  | .span =>
    ProductFits params.correctnessBonus (spans p corpus.positive) ∧
    ProductFits params.incorrectnessPenalty (spans p corpus.negative)

/-- No result on the way to the score of a pattern reaches the limit. -/
structure KeepsFinite (params : FitnessParams) (corpus : Corpus) (pattern : String) (p : Matcher) :
    Prop where
  rewardsFit : RewardsFit params corpus p
  priceFits : ProductFits params.complexityPenalty pattern.length
  sum : |real (rewards params corpus p).1 + real (rewards params corpus p).2| < limit
  difference : |real ((rewards params corpus p).1 + (rewards params corpus p).2) -
    real (price params pattern)| < limit

/-- The parameters are finite, as they are in a configuration that is accepted. -/
structure FiniteParams (params : FitnessParams) : Prop where
  bonus : params.correctnessBonus.isFinite = true
  penalty : params.incorrectnessPenalty.isFinite = true
  complexity : params.complexityPenalty.isFinite = true

/-- The parameters of a configuration that is accepted are finite. -/
theorem FiniteParams.of_validate {config : Config} (h : config.validate = .ok ()) :
    FiniteParams config.fitness :=
  have hsettings := Config.validate_eq_ok_iff.mp h
  ⟨hsettings.bonus, hsettings.penalty, hsettings.complexity⟩

theorem rewards_isFinite_iff (hparams : FiniteParams params) (corpus : Corpus) (p : Matcher) :
    ((rewards params corpus p).1.isFinite = true ∧ (rewards params corpus p).2.isFinite = true) ↔
      RewardsFit params corpus p := by
  unfold rewards RewardsFit
  cases params.mode with
  | classic =>
      exact and_congr
        (total_isFinite_iff (forall_mem_perText hparams.bonus hparams.penalty))
        (total_isFinite_iff (forall_mem_perText hparams.penalty hparams.bonus))
  | span =>
      exact and_congr (mul_ofNat_isFinite_iff hparams.bonus _)
        (mul_ofNat_isFinite_iff hparams.penalty _)

/-- The score of a pattern that is weighed is finite if no result on the way reaches the limit. -/
theorem weight_isFinite_iff (hparams : FiniteParams params) :
    (weight params corpus pattern p).isFinite = true ↔ KeepsFinite params corpus pattern p := by
  have hrewards := rewards_isFinite_iff hparams corpus p
  have hprice : (price params pattern).isFinite = true ↔
      ProductFits params.complexityPenalty pattern.length :=
    mul_ofNat_isFinite_iff hparams.complexity _
  constructor
  · intro h
    obtain ⟨hsum, hpricefin⟩ := isFinite_of_sub h
    obtain ⟨hpositive, hnegative⟩ := isFinite_of_add hsum
    exact ⟨hrewards.mp ⟨hpositive, hnegative⟩, hprice.mp hpricefin,
      (add_rounds hpositive hnegative).isFinite_iff.mp hsum,
      (sub_rounds hsum hpricefin).isFinite_iff.mp h⟩
  · intro h
    obtain ⟨hpositive, hnegative⟩ := hrewards.mpr h.rewardsFit
    have hsum := (add_rounds hpositive hnegative).isFinite_iff.mpr h.sum
    exact (sub_rounds hsum (hprice.mpr h.priceFits)).isFinite_iff.mpr h.difference

/-! ## Reading a score -/

theorem isFinite_iff_not_extreme (x : Float) :
    x.isFinite = true ↔
      x.isNaN = false ∧ ¬ (x == -infinity) = true ∧ ¬ isPerfect x = true := by
  constructor
  · intro hx
    have hnan := isNaN_eq_false_of_isFinite hx
    refine ⟨hnan, ?_, ?_⟩
    · rw [beq_iff_level hnan isNaN_neg_infinity, level_eq_real hx, level_neg_infinity]
      exact EReal.coe_ne_bot _
    · rw [isPerfect_iff_level hnan, level_eq_real hx]
      exact EReal.coe_ne_top _
  · rintro ⟨hnan, hleast, hgreatest⟩
    rw [beq_iff_level hnan isNaN_neg_infinity, level_neg_infinity] at hleast
    rw [isPerfect_iff_level hnan] at hgreatest
    change x.toModel.unpack.isFinite = true
    change x.toModel.unpack.isNaN = false at hnan
    unfold level at hleast hgreatest
    cases hu : x.toModel.unpack with
    | notANumber =>
        rw [hu] at hnan
        cases hnan
    | infinity s =>
        rw [hu] at hleast hgreatest
        cases s with
        | negative => exact absurd rfl hleast
        | positive => exact absurd rfl hgreatest
    | zero | finite => rfl

/-- The score of a pattern that compiles and is no perfect classifier shall be finite. -/
theorem scoreTells_iff_isFinite (hp : Matcher.ofPattern pattern params.mode = .ok p)
    (himperfect : ¬ (params.mode = .span ∧ separates corpus p = true)) :
    ScoreTells params corpus pattern ↔ (score params corpus pattern).isFinite = true := by
  have hcompiles : ¬ ∃ e, Matcher.ofPattern pattern params.mode = .error e := by
    rintro ⟨e, he⟩
    rw [hp] at he
    cases he
  have hgreatest : ¬ (params.mode = .span ∧
      ∃ p, Matcher.ofPattern pattern .span = .ok p ∧ separates corpus p = true) := by
    rintro ⟨hmode, q, hq, hseparates⟩
    rw [hmode, hq] at hp
    cases hp
    exact himperfect ⟨hmode, hseparates⟩
  rw [isFinite_iff_not_extreme]
  constructor
  · intro h
    exact ⟨h.isNumber, fun hleast => hcompiles (h.least_iff.mp hleast),
      fun hperfect => hgreatest (h.greatest_iff.mp hperfect)⟩
  · rintro ⟨hnan, hleast, hperfect⟩
    exact ⟨hnan, iff_of_false hleast hcompiles, iff_of_false hperfect hgreatest⟩

theorem scoreTells_of_error {e : PatternError}
    (hp : Matcher.ofPattern pattern params.mode = .error e)
    (hscore : score params corpus pattern = -infinity) : ScoreTells params corpus pattern where
  isNumber := by rw [hscore, isNaN_neg_infinity]
  least_iff := iff_of_true (by rw [hscore]; rfl) ⟨e, hp⟩
  greatest_iff := by
    refine iff_of_false (by rw [hscore]; decide) ?_
    rintro ⟨hmode, q, hq, -⟩
    rw [hmode, hq] at hp
    cases hp

theorem scoreTells_of_separates (hp : Matcher.ofPattern pattern params.mode = .ok p)
    (hperfect : params.mode = .span ∧ separates corpus p = true)
    (hscore : score params corpus pattern = infinity) : ScoreTells params corpus pattern where
  isNumber := by rw [hscore, isNaN_infinity]
  least_iff := by
    refine iff_of_false (by rw [hscore]; decide) ?_
    rintro ⟨e, he⟩
    rw [hp] at he
    cases he
  greatest_iff := by
    refine iff_of_true (by rw [hscore]; rfl) ⟨hperfect.1, p, ?_, hperfect.2⟩
    rwa [← hperfect.1]

/-- The extreme scores mean what they shall mean if what a pattern weighs is finite. -/
theorem scoreTells_iff_weight (params : FitnessParams) (corpus : Corpus) (pattern : String) :
    ScoreTells params corpus pattern ↔
      ∀ p, Weighed params corpus pattern p →
        (weight params corpus pattern p).isFinite = true := by
  rcases score_cases params corpus pattern with ⟨e, hp, hscore⟩ | ⟨p, hp, hperfect, hscore⟩ |
    ⟨p, hp, himperfect, hclamped, hscore⟩ | ⟨p, hweighed, hscore⟩
  · refine iff_of_true (scoreTells_of_error hp hscore) fun q hq => ?_
    cases hp.symm.trans hq.compiles
  · refine iff_of_true (scoreTells_of_separates hp hperfect hscore) fun q hq => ?_
    cases hp.symm.trans hq.compiles
    exact absurd hperfect hq.imperfect
  · refine iff_of_true ?_ fun q hq => ?_
    · rw [scoreTells_iff_isFinite hp himperfect, hscore]
      rfl
    · cases hp.symm.trans hq.compiles
      exact absurd hclamped hq.unclamped
  · rw [scoreTells_iff_isFinite hweighed.compiles hweighed.imperfect, hscore]
    constructor
    · intro h q hq
      cases hweighed.compiles.symm.trans hq.compiles
      exact h
    · intro h
      exact h p hweighed

/-! ## Small parameters -/

/-- Parameters and texts for which nothing comes near the limit. -/
structure Small (params : FitnessParams) (corpus : Corpus) (pattern : String) : Prop where
  bonus : |real params.correctnessBonus| ≤ 2 ^ 900
  penalty : |real params.incorrectnessPenalty| ≤ 2 ^ 900
  complexity : |real params.complexityPenalty| ≤ 2 ^ 900
  length : pattern.length ≤ 2 ^ 53
  positive : corpus.positive.length ≤ 2 ^ 53 ∧ (corpus.positive.map String.length).sum ≤ 2 ^ 53
  negative : corpus.negative.length ≤ 2 ^ 53 ∧ (corpus.negative.map String.length).sum ≤ 2 ^ 53

theorem representable_count_mul {n : ℕ} (hn : n ≤ 2 ^ 53) : Representable (n * 2 ^ 900) :=
  (representable_natCast hn).mul_pow 900

theorem count_mul_le {n : ℕ} (hn : n ≤ 2 ^ 53) : (n : ℝ) * 2 ^ 900 ≤ 2 ^ 953 := by
  have hn' : (n : ℝ) ≤ 2 ^ 53 := by exact_mod_cast hn
  rw [pow_add 2 53 900]
  exact mul_le_mul_of_nonneg_right hn' (by positivity)

theorem pow_953_le : (2 : ℝ) ^ 953 ≤ 2 ^ 1023 := pow_le_pow_right₀ one_le_two (by norm_num)

/-- Every partial sum is bounded by the number of rewards so far. -/
theorem total_small {rewards : List Float}
    (hrewards : ∀ r ∈ rewards, r.isFinite = true ∧ |real r| ≤ 2 ^ 900)
    (hlength : rewards.length ≤ 2 ^ 53) :
    (total rewards).isFinite = true ∧ |real (total rewards)| ≤ rewards.length * 2 ^ 900 := by
  induction rewards using List.reverseRecOn with
  | nil =>
      have hzero : real (-0.0) = 0 := rfl
      refine ⟨rfl, ?_⟩
      change |real (-0.0)| ≤ _
      rw [hzero, abs_zero]
      positivity
  | append_singleton rewards reward ih =>
      rw [List.length_append, List.length_singleton] at hlength ⊢
      obtain ⟨hreward, hsmall⟩ := hrewards reward (by simp)
      obtain ⟨htotal, hbound⟩ :=
        ih (fun r hr => hrewards r (List.mem_append_left _ hr)) (by omega)
      rw [total_concat]
      refine (add_rounds htotal hreward).abs_le ?_ (representable_count_mul hlength)
        ((count_mul_le hlength).trans pow_953_le)
      calc
        |real (total rewards) + real reward| ≤ |real (total rewards)| + |real reward| :=
          abs_add_le _ _
        _ ≤ rewards.length * 2 ^ 900 + 2 ^ 900 := add_le_add hbound hsmall
        _ = (rewards.length + 1 : ℕ) * 2 ^ 900 := by
          push_cast
          rw [add_mul, one_mul]

theorem mul_ofNat_small {factor : Float} (hfactor : factor.isFinite = true)
    (hsmall : |real factor| ≤ 2 ^ 900) {count : ℕ} (hcount : count ≤ 2 ^ 53) :
    (factor * Float.ofNat count).isFinite = true ∧
      |real (factor * Float.ofNat count)| ≤ 2 ^ 953 := by
  obtain ⟨hfinite, hreal⟩ := (ofNat_rounds count).real_eq (representable_natCast hcount)
    (natCast_lt_limit (hcount.trans (by norm_num)))
  have hrep : Representable ((2 : ℝ) ^ 953) := by
    exact_mod_cast representable_pow (e := 953) (by norm_num)
  refine (mul_rounds hfactor hfinite).abs_le ?_ hrep pow_953_le
  rw [hreal, abs_mul, Nat.abs_cast, mul_comm]
  exact (mul_le_mul_of_nonneg_left hsmall (Nat.cast_nonneg _)).trans (count_mul_le hcount)

theorem spans_le (p : Matcher) (texts : List String) :
    spans p texts ≤ (texts.map String.length).sum := by
  unfold spans
  rw [← List.sum_eq_foldl]
  apply List.sum_le_sum
  intro s _
  exact Regex.Program.longestMatch_le _ _

theorem total_perText_small {accepted rejected : Float} {texts : List String}
    (haccepted : accepted.isFinite = true ∧ |real accepted| ≤ 2 ^ 900)
    (hrejected : rejected.isFinite = true ∧ |real rejected| ≤ 2 ^ 900)
    (hlength : texts.length ≤ 2 ^ 53) :
    (total (perText p accepted rejected texts)).isFinite = true ∧
      |real (total (perText p accepted rejected texts))| ≤ 2 ^ 953 := by
  have hcount : (perText p accepted rejected texts).length ≤ 2 ^ 53 := by
    rwa [perText, List.length_map]
  obtain ⟨hfinite, hbound⟩ := total_small (forall_mem_perText haccepted hrejected) hcount
  exact ⟨hfinite, hbound.trans (count_mul_le hcount)⟩

theorem rewards_small (hparams : FiniteParams params) (hsmall : Small params corpus pattern)
    (p : Matcher) :
    ((rewards params corpus p).1.isFinite = true ∧ |real (rewards params corpus p).1| ≤ 2 ^ 953) ∧
      (rewards params corpus p).2.isFinite = true ∧
        |real (rewards params corpus p).2| ≤ 2 ^ 953 := by
  have hbonus := And.intro hparams.bonus hsmall.bonus
  have hpenalty := And.intro hparams.penalty hsmall.penalty
  unfold rewards
  cases params.mode with
  | classic =>
      exact ⟨total_perText_small hbonus hpenalty hsmall.positive.1,
        total_perText_small hpenalty hbonus hsmall.negative.1⟩
  | span =>
      exact ⟨mul_ofNat_small hparams.bonus hsmall.bonus ((spans_le p _).trans hsmall.positive.2),
        mul_ofNat_small hparams.penalty hsmall.penalty ((spans_le p _).trans hsmall.negative.2)⟩

theorem weight_small (hparams : FiniteParams params) (hsmall : Small params corpus pattern)
    (p : Matcher) : (weight params corpus pattern p).isFinite = true := by
  obtain ⟨⟨hpositive, hpositivele⟩, hnegative, hnegativele⟩ :=
    rewards_small hparams hsmall p
  obtain ⟨hprice, hpricele⟩ :=
    mul_ofNat_small hparams.complexity hsmall.complexity hsmall.length
  have hrep : Representable ((2 : ℝ) ^ 954) := by
    exact_mod_cast representable_pow (e := 954) (by norm_num)
  have hdouble : (2 : ℝ) ^ 954 = 2 * 2 ^ 953 := pow_succ' 2 953
  obtain ⟨hsum, hsumle⟩ := (add_rounds hpositive hnegative).abs_le
    (by
      rw [hdouble, two_mul]
      exact (abs_add_le _ _).trans (add_le_add hpositivele hnegativele))
    hrep (pow_le_pow_right₀ one_le_two (by norm_num))
  refine (sub_rounds hsum hprice).isFinite_iff.mpr (lt_limit_of_le_pow ?_)
  calc
    |real ((rewards params corpus p).1 + (rewards params corpus p).2) - real (price params pattern)|
        ≤ |real ((rewards params corpus p).1 + (rewards params corpus p).2)| +
          |real (price params pattern)| := abs_sub _ _
    _ ≤ 2 ^ 954 + 2 ^ 954 :=
      add_le_add hsumle (hpricele.trans (pow_le_pow_right₀ one_le_two (by norm_num)))
    _ = 2 ^ 955 := by rw [← two_mul, ← pow_succ']
    _ ≤ 2 ^ 1023 := pow_le_pow_right₀ one_le_two (by norm_num)

/-- With small parameters and texts the extreme scores mean what they shall mean. -/
theorem scoreTells_of_small (hparams : FiniteParams params) (hsmall : Small params corpus pattern) :
    ScoreTells params corpus pattern :=
  (scoreTells_iff_weight params corpus pattern).mpr fun p _ => weight_small hparams hsmall p

theorem abs_real_le_pow {x : Float} (hx : |real x| ≤ 2 ^ 4) : |real x| ≤ 2 ^ 900 :=
  hx.trans (pow_le_pow_right₀ one_le_two (by norm_num))

/-- Rewards and a price that are not the default ones. -/
def mildParams : FitnessParams :=
  { correctnessBonus := 3.0, incorrectnessPenalty := -2.0, complexityPenalty := 0.5 }

theorem finiteParams_mild : FiniteParams mildParams := ⟨rfl, rfl, rfl⟩

theorem small_mild (hlength : pattern.length ≤ 2 ^ 53)
    (hpositive : corpus.positive.length ≤ 2 ^ 53 ∧
      (corpus.positive.map String.length).sum ≤ 2 ^ 53)
    (hnegative : corpus.negative.length ≤ 2 ^ 53 ∧
      (corpus.negative.map String.length).sum ≤ 2 ^ 53) : Small mildParams corpus pattern where
  bonus := by
    have hunpack : mildParams.correctnessBonus.toModel.unpack =
        .finite .positive (3 * 2 ^ 51) (-51) (by positivity) := rfl
    apply abs_real_le_pow
    rw [real_of_unpack hunpack, unit]
    norm_num
  penalty := by
    have hunpack : mildParams.incorrectnessPenalty.toModel.unpack =
        .finite .negative (2 ^ 52) (-51) (by positivity) := rfl
    apply abs_real_le_pow
    rw [real_of_unpack hunpack, unit]
    norm_num
  complexity := by
    have hunpack : mildParams.complexityPenalty.toModel.unpack =
        .finite .positive (2 ^ 52) (-53) (by positivity) := rfl
    apply abs_real_le_pow
    rw [real_of_unpack hunpack, unit]
    norm_num
  length := hlength
  positive := hpositive
  negative := hnegative

/-! ## The condition -/

/-- The extreme scores mean what they shall mean exactly if no result on the way to the score of a
pattern that is weighed reaches the limit. -/
theorem scoreTells_iff_keepsFinite (params : FitnessParams) (corpus : Corpus) (pattern : String)
    (hparams : FiniteParams params) :
    ScoreTells params corpus pattern ↔
      ∀ p, Weighed params corpus pattern p → KeepsFinite params corpus pattern p := by
  rw [scoreTells_iff_weight]
  simp only [weight_isFinite_iff hparams]

/-- The letter matches only one of the good texts as a whole, so its score is weighed. -/
theorem exists_weighed_mild :
    ∃ p, Weighed mildParams ⟨["a", "ab"], ["b"]⟩ "a" p := by
  obtain ⟨p, hp, hmatches⟩ :=
    (Matcher.escaped_matchesExactly (by decide : "a" ≠ "") (by rfl)).span
  refine ⟨p, hp, ?_, fun hclamped => absurd hclamped.1 (by decide)⟩
  rintro ⟨-, hseparates⟩
  have hwhole : p.matchesEntire "ab" = true := by
    simp only [separates, Bool.and_eq_true, List.all_eq_true] at hseparates
    exact hseparates.2 "ab" (by simp)
  exact absurd ((hmatches "ab").2.2.mp hwhole) (by decide)

/-- With small rewards and a small price nothing reaches the limit. -/
theorem scoreTells_mild :
    FiniteParams mildParams ∧ (∃ p, Weighed mildParams ⟨["a", "ab"], ["b"]⟩ "a" p) ∧
      ScoreTells mildParams ⟨["a", "ab"], ["b"]⟩ "a" := by
  refine ⟨finiteParams_mild, exists_weighed_mild,
    (scoreTells_iff_keepsFinite mildParams _ _ finiteParams_mild).mpr fun p _ => ?_⟩
  rw [← weight_isFinite_iff finiteParams_mild]
  exact weight_small finiteParams_mild
    (small_mild (by decide) (by decide) (by decide)) p

/-- Rewards that cancel each other exactly become infinite before they do, and the score of a pattern
that compiles is no number. -/
theorem cancelling_rewards_not_scoreTells :
    FiniteParams { mode := .classic, correctnessBonus := 1e308, incorrectnessPenalty := -1e308 } ∧
      ¬ ScoreTells
        { mode := .classic, correctnessBonus := 1e308, incorrectnessPenalty := -1e308 }
        ⟨["a", "a"], ["a", "a"]⟩ "a" := by
  refine ⟨⟨by decide +kernel, by decide +kernel, by rfl⟩, fun h => ?_⟩
  obtain ⟨p, hp⟩ : ∃ p, Matcher.ofPattern "a" .classic = .ok p :=
    Matcher.exists_ofPattern (by rfl)
  have hnumber := h.isNumber
  unfold score at hnumber
  dsimp only at hnumber
  rw [hp] at hnumber
  simp only [rewardsPerText, List.map] at hnumber
  revert hnumber
  cases p.accepts "a" with
  | true | false => decide +kernel

end RegexInference.Fitness
