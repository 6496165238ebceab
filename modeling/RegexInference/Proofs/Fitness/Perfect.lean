import RegexInference.Proofs.Fitness.Accuracy

/-!
# Perfect classifiers

A perfect classifier is found by matching good texts whole, and the percentage is counted with
matches anywhere.  What is matched whole is also matched somewhere, so all texts count as correct;
and although the number of texts is rounded, multiplied and divided, the share of all texts among
themselves stays close enough to one hundred to be rounded to it.
-/

namespace RegexInference.Fitness

open Binary64

/-! ## The share of all texts -/

/-- A share that is at most one half below one hundred is rounded to it. -/
theorem roundedShare_eq_hundred {share : Float} (hfinite : share.isFinite = true)
    (hlow : 199 / 2 ≤ real share) (hhigh : real share ≤ 2 ^ 52) : roundedShare share = 100 := by
  have hfloor : 100 ≤ ⌊real share + 1 / 2⌋₊ := Nat.le_floor (by norm_num; linarith)
  rw [roundedShare_eq_floor hfinite (by linarith) hhigh, Nat.min_eq_left hfloor]

/-- The number next to a count is no less than one and does not leave the machine words. -/
theorem ofNat_bounds {n : ℕ} (hn : 0 < n) (hsize : n < 2 ^ 64) :
    (Float.ofNat n).isFinite = true ∧ 1 ≤ real (Float.ofNat n) ∧ real (Float.ofNat n) ≤ 2 ^ 64 := by
  have hfinite : (Float.ofNat n).isFinite = true :=
    (ofNat_rounds n).isFinite_iff.mpr (natCast_lt_limit hsize.le)
  have hnearest := (ofNat_rounds n).nearest hfinite
  refine ⟨hfinite, ?_, ?_⟩
  · apply hnearest.ge_of_ge
    · simpa using representable_pow (e := 0) (by norm_num)
    · exact_mod_cast hn
  · apply hnearest.le_of_le
    · exact_mod_cast representable_pow (e := 64) (by norm_num)
    · exact_mod_cast hsize.le

/-- Neither the product nor the quotient is off by so much that the share of a count in itself gets
farther from one hundred than one half below. -/
theorem share_bounds {count : Float} (hfinite : count.isFinite = true) (hone : 1 ≤ real count)
    (htop : real count ≤ 2 ^ 64) :
    (100.0 * count / count).isFinite = true ∧ 199 / 2 ≤ real (100.0 * count / count) ∧
      real (100.0 * count / count) ≤ 2 ^ 7 := by
  have hpos : 0 < real count := by linarith
  have hproduct := mul_rounds (x := 100.0) rfl hfinite
  rw [real_hundred] at hproduct
  obtain ⟨hproductfin, hproduct⟩ := hproduct.isNearest (by
    rw [abs_of_nonneg (by linarith)]
    calc
      100 * real count ≤ 2 ^ 71 := by linarith
      _ ≤ 2 ^ 1023 := pow_le_pow_right₀ one_le_two (by norm_num))
  have hlow := hproduct.ge_sub_div (by linarith)
  have hhigh : real (100.0 * count) ≤ real count * 2 ^ 7 :=
    hproduct.le_of_le ((representable_real count).mul_pow 7) (by linarith)
  have habove : 199 / 2 ≤ real (100.0 * count) / real count := by
    rw [le_div_iff₀ hpos]
    linarith
  have hbelow : real (100.0 * count) / real count ≤ 2 ^ 7 := by
    rw [div_le_iff₀ hpos]
    linarith
  obtain ⟨hquotientfin, hquotient⟩ := (div_rounds hproductfin hfinite hpos.ne').isNearest (by
    rw [abs_of_nonneg (by linarith)]
    exact hbelow.trans (pow_le_pow_right₀ one_le_two (by norm_num)))
  refine ⟨hquotientfin, hquotient.ge_of_ge ?_ habove, hquotient.le_of_le ?_ hbelow⟩
  · have := representable_of_le (m := 199) (e := -1) (by norm_num) (by norm_num)
    rwa [zpow_neg_one, ← div_eq_mul_inv] at this
  · exact_mod_cast representable_pow (e := 7) (by norm_num)

/-- The share of any number of texts among themselves. -/
theorem roundedShare_all {n : ℕ} (hn : 0 < n) (hsize : n < 2 ^ 64) :
    roundedShare (100.0 * Float.ofNat n / Float.ofNat n) = 100 := by
  obtain ⟨hcount, hone, htop⟩ := ofNat_bounds hn hsize
  obtain ⟨hshare, hlow, hhigh⟩ := share_bounds hcount hone htop
  exact roundedShare_eq_hundred hshare hlow (by linarith)

/-! ## Counting -/

variable {corpus : Corpus} {pattern : String} {p : Matcher}

theorem correctCount_eq_size (hpositive : ∀ s ∈ corpus.positive, p.accepts s = true)
    (hnegative : ∀ s ∈ corpus.negative, p.accepts s = false) :
    correctCount corpus p = corpus.size := by
  unfold correctCount Corpus.size
  rw [List.countP_eq_length.mpr hpositive, List.countP_eq_length.mpr]
  intro s hs
  rw [hnegative s hs]
  rfl

theorem separates_iff : separates corpus p = true ↔ corpus.positive ≠ [] ∧
    (∀ s ∈ corpus.positive, p.matchesEntire s = true) ∧
      ∀ s ∈ corpus.negative, p.accepts s = false := by
  unfold separates
  simp only [Bool.and_eq_true, Bool.not_eq_true', List.isEmpty_eq_false_iff, List.any_eq_false,
    List.all_eq_true, Bool.not_eq_true]
  constructor
  · rintro ⟨⟨hsome, hnegative⟩, hpositive⟩
    exact ⟨hsome, hpositive, hnegative⟩
  · rintro ⟨hsome, hpositive, hnegative⟩
    exact ⟨⟨hsome, hnegative⟩, hpositive⟩

/-- A perfect classifier has the greatest score and is correct on one hundred percent of the texts.
The texts are as many as a machine word counts. -/
theorem perfect_accuracy (params : FitnessParams) (corpus : Corpus) (pattern : String) (p : Matcher)
    (hmode : params.mode = .span) (hsize : corpus.size < 2 ^ 64)
    (hp : Matcher.ofPattern pattern .span = .ok p) (hsome : corpus.positive ≠ [])
    (hpositive : ∀ s ∈ corpus.positive, p.matchesEntire s = true)
    (hnegative : ∀ s ∈ corpus.negative, p.accepts s = false) :
    score params corpus pattern = infinity ∧ accuracy params corpus pattern = 100 := by
  have hseparates : separates corpus p = true := separates_iff.mpr ⟨hsome, hpositive, hnegative⟩
  have hcorrect : correctCount corpus p = corpus.size :=
    correctCount_eq_size (fun s hs => Matcher.accepts_of_matchesEntire hp (hpositive s hs)) hnegative
  have hpos : 0 < corpus.size := by
    have := List.length_pos_of_ne_nil hsome
    unfold Corpus.size
    omega
  constructor
  · unfold score
    rw [hmode, hp]
    exact if_pos hseparates
  · unfold accuracy
    rw [if_neg hpos.ne', hmode, hp]
    dsimp only
    rw [hcorrect]
    exact roundedShare_all hpos hsize

theorem perfect_accuracy_letter :
    score {} ⟨["a"], ["b", ""]⟩ "a" = infinity ∧ accuracy {} ⟨["a"], ["b", ""]⟩ "a" = 100 := by
  obtain ⟨set, unit, hparse, ha, hb⟩ : ∃ set unit, Regex.parse? "a".toList =
      some (.chars set unit) ∧ set.has 'a' = true ∧ set.has 'b' = false :=
    ⟨_, _, rfl, by rfl, by rfl⟩
  obtain ⟨p, hp⟩ : ∃ p, Matcher.ofPattern "a" .span = .ok p :=
    Matcher.exists_ofPattern (by rfl)
  apply perfect_accuracy {} ⟨["a"], ["b", ""]⟩ "a" p rfl (by decide) hp (by decide)
  · intro s hs
    obtain rfl := List.mem_singleton.mp hs
    exact (Matcher.matchesEntire_eq_true hp hparse "a").mpr
      ⟨by rfl, ⟨'a', rfl, ha⟩, rfl⟩
  · intro s hs
    rw [← Bool.not_eq_true, Matcher.accepts_eq_true hp hparse]
    rintro ⟨i, j, -, ⟨c, hc, hhas⟩, -⟩
    have hmem := Array.mem_of_getElem? hc
    rcases List.mem_cons.mp hs with rfl | hs
    · obtain rfl : c = 'b' := by simpa using hmem
      rw [hb] at hhas
      cases hhas
    · obtain rfl := List.mem_singleton.mp hs
      simp at hmem

end RegexInference.Fitness
