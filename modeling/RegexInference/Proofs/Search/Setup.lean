import RegexInference.Proofs.Fitness.Sentinels
import RegexInference.Proofs.Search.Winner

/-!
# Setting up a search

A search is set up in two steps: the configuration is validated, and a wheel is built from its
weights.  Both steps add the weights up and want a positive sum, and as one sum merely begins with
negative zero, they agree on it.  What only the wheel asks for is that the sum is finite: weights
that are finite each may be refused in the second step after all.
-/

namespace RegexInference

open Fitness (SumFits)

/-! ## The wheel -/

namespace Weights

theorem sum_eq (w : Weights) : w.sum = w.insert + w.delete + w.replace + w.duplicate := by
  change -0.0 + w.insert + w.delete + w.replace + w.duplicate = _
  rw [Binary64.neg_zero_add_add]

variable {w : Weights} (hweights : ∀ x ∈ w.toList, x.isFinite = true ∧ ¬ x < 0.0)
include hweights

theorem all_nonneg : (w.toList.all (· ≥ 0.0)) = true := by
  rw [List.all_eq_true]
  intro x hx
  obtain ⟨hfinite, hle⟩ := hweights x hx
  have hnan := Binary64.isNaN_eq_false_of_isFinite hfinite
  exact decide_eq_true (Binary64.le_of_not_lt hnan rfl hle)

/-- The sum is finite unless a partial sum reaches the limit. -/
theorem sum_isFinite_iff : w.sum.isFinite = true ↔ SumFits w.toList :=
  Fitness.total_isFinite_iff fun x hx => (hweights x hx).1

end Weights

/-- Weights with a positive sum make a wheel exactly if the sum is finite. -/
theorem OperatorWheel.ofWeights_of_pos {w : Weights}
    (hweights : ∀ x ∈ w.toList, x.isFinite = true ∧ ¬ x < 0.0) (hpositive : ¬ w.sum ≤ 0.0) :
    (w.sum.isFinite = true → ∃ wheel, ofWeights w = .ok wheel) ∧
      (w.sum.isFinite = false → ofWeights w = .error .overflow) := by
  have hzero : ¬ (w.sum == 0.0) = true := by
    intro hzero
    obtain ⟨hnan, hnan'⟩ := Binary64.isNaN_eq_false_of_beq hzero
    rw [Binary64.le_iff_level hnan hnan'] at hpositive
    exact hpositive ((Binary64.beq_iff_level hnan hnan').mp hzero).le
  rw [Weights.sum_eq] at hzero ⊢
  unfold ofWeights
  rw [if_pos (Weights.all_nonneg hweights)]
  dsimp only
  rw [if_neg hzero]
  constructor
  · intro hfinite
    rw [if_pos hfinite]
    exact ⟨_, rfl⟩
  · intro hinfinite
    rw [if_neg (by simp [hinfinite])]

/-! ## The search -/

namespace Search

variable {config : Config}

theorem ofConfig_of_error {e : ConfigError} (h : config.validate = .error e) :
    ofConfig config = .error (.config e) := by
  unfold ofConfig
  rw [h]
  rfl

/-- Behind the validation only the sum of the weights decides. -/
theorem ofConfig_of_valid (hvalid : config.validate = .ok ()) :
    (SumFits config.mutationWeights.toList → ∃ s, ofConfig config = .ok s) ∧
      (¬ SumFits config.mutationWeights.toList → ofConfig config = .error .overflow) := by
  have hsettings := Config.validate_eq_ok_iff.mp hvalid
  obtain ⟨hwheel, hoverflow⟩ :=
    OperatorWheel.ofWeights_of_pos hsettings.weights hsettings.positive
  have hsum := Weights.sum_isFinite_iff hsettings.weights
  constructor
  · intro hfits
    obtain ⟨wheel, hwheel⟩ := hwheel (hsum.mpr hfits)
    have hoperators : SetupError.operators config.mutationWeights = .ok wheel := by
      unfold SetupError.operators
      rw [hwheel]
    have hrange : MutationRange.ofPair? config.mutationsPerGeneration =
        some ⟨_, _, hsettings.range⟩ := dif_pos hsettings.range
    exact ⟨⟨config, wheel, _⟩, ofConfig_eq_ok_iff.mpr ⟨hvalid, hoperators, hrange, rfl⟩⟩
  · intro hlimit
    rw [← hsum, Bool.not_eq_true] at hlimit
    unfold ofConfig SetupError.operators
    rw [hvalid, hoverflow hlimit]
    rfl

/-- Exactly the valid configurations make a search, and setting one up never fails in any other way
than validation does. -/
structure SetUpAsValidated (config : Config) : Prop where
  noOverflow : ofConfig config ≠ .error .overflow
  exists_iff : (∃ s, ofConfig config = .ok s) ↔ config.validate = .ok ()

/-- Validation decides whether a search can be set up, unless the weights are valid and their sum
leaves the finite numbers; then the search cannot be set up in spite of the validation. -/
theorem setUpAsValidated_iff_sumFits (config : Config) :
    (SetUpAsValidated config ↔
      (config.validate = .ok () → SumFits config.mutationWeights.toList)) ∧
    (config.validate = .ok () → ¬ SumFits config.mutationWeights.toList →
      ofConfig config = .error .overflow) ∧
    (∀ e, config.validate = .error e → ofConfig config = .error (.config e)) := by
  refine ⟨⟨fun h hvalid => ?_, fun hfits => ?_⟩, fun hvalid => (ofConfig_of_valid hvalid).2,
    fun e => ofConfig_of_error⟩
  · by_contra hlimit
    exact h.noOverflow ((ofConfig_of_valid hvalid).2 hlimit)
  · cases hvalid : config.validate with
    | error e =>
        have hset := ofConfig_of_error hvalid
        exact ⟨by simp [hset], by simp [hset, hvalid]⟩
    | ok valid =>
        obtain ⟨s, hset⟩ := (ofConfig_of_valid hvalid).1 (hfits hvalid)
        exact ⟨by simp [hset], by simp [hset, hvalid]⟩

/-- A subnormal weight beside the greatest finite one is as good as any. -/
theorem extreme_weights_setUp :
    SetUpAsValidated
      { mutationWeights :=
          { insert := 1.7976931348623157e308, delete := 5e-324, replace := 0.0, duplicate := -0.0 } } := by
  refine (setUpAsValidated_iff_sumFits _).1.mpr fun hvalid => ?_
  rw [← Weights.sum_isFinite_iff (Config.validate_eq_ok_iff.mp hvalid).weights]
  decide +kernel

/-- Two weights that are valid each, and whose sum is not finite. -/
theorem overflowing_weights_not_setUp :
    Config.validate { mutationWeights := { insert := 1e308, delete := 1e308 } } = .ok () ∧
      ofConfig { mutationWeights := { insert := 1e308, delete := 1e308 } } = .error .overflow ∧
      ¬ SetUpAsValidated { mutationWeights := { insert := 1e308, delete := 1e308 } } := by
  have haccepted : (Config.validate
      { mutationWeights := { insert := 1e308, delete := 1e308 } }).isOk = true := by
    decide +kernel
  cases hvalid : Config.validate { mutationWeights := { insert := 1e308, delete := 1e308 } } with
  | error e =>
      rw [hvalid] at haccepted
      cases haccepted
  | ok valid =>
      have hoverflow := (ofConfig_of_valid hvalid).2 (by
        rw [← Weights.sum_isFinite_iff (Config.validate_eq_ok_iff.mp hvalid).weights]
        decide +kernel)
      exact ⟨rfl, hoverflow, fun h => h.noOverflow hoverflow⟩

end Search

end RegexInference
