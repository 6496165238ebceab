import Mathlib.Tactic.SplitIfs
import RegexInference.Config

/-!
# What a valid configuration is

Validation checks one setting after the other and stops at the first that is not allowed.  So a
configuration is accepted exactly if every setting is.
-/

namespace RegexInference.Config

/-- All settings are allowed. -/
structure Valid (config : Config) : Prop where
  lineages : config.lineages ≠ 0
  generations : config.generationsPerLineage ≠ 0
  minimum : config.mutationsPerGeneration.1 ≠ 0
  range : config.mutationsPerGeneration.1 ≤ config.mutationsPerGeneration.2
  weights : ∀ w ∈ config.mutationWeights.toList, w.isFinite = true ∧ ¬ w < 0.0
  positive : ¬ config.mutationWeights.sum ≤ 0.0
  bonus : config.fitness.correctnessBonus.isFinite = true
  penalty : config.fitness.incorrectnessPenalty.isFinite = true
  complexity : config.fitness.complexityPenalty.isFinite = true

theorem Valid.withLineages {config : Config} (h : config.Valid) {n : Nat} (hn : n ≠ 0) :
    Valid { config with lineages := n } :=
  { h with lineages := hn }

theorem Valid.withGenerations {config : Config} (h : config.Valid) {n : Nat} (hn : n ≠ 0) :
    Valid { config with generationsPerLineage := n } :=
  { h with generations := hn }

theorem checkRange_eq_ok_iff {range : Nat × Nat} :
    checkRange range = .ok () ↔ range.1 ≠ 0 ∧ range.1 ≤ range.2 := by
  unfold checkRange
  split_ifs with hzero hreversed
  · simp [hzero]
  · simp [hreversed]
  · simp [hzero, Nat.not_lt.mp hreversed]

theorem checkWeights_eq_ok_iff {weights : Weights} :
    checkWeights weights = .ok () ↔
      (∀ w ∈ weights.toList, w.isFinite = true ∧ ¬ w < 0.0) ∧ ¬ weights.sum ≤ 0.0 := by
  unfold checkWeights
  cases hfind : weights.toList.find? fun w => !w.isFinite || w < 0.0 with
  | some w =>
      have hmem := List.mem_of_find?_eq_some hfind
      have hrefused := List.find?_some hfind
      simp only [reduceCtorEq, false_iff, not_and]
      intro hall
      simp [hall w hmem] at hrefused
  | none =>
      have hall : ∀ w ∈ weights.toList, w.isFinite = true ∧ ¬ w < 0.0 := by
        simpa using hfind
      dsimp only
      split_ifs with hsum
      · simp [hsum]
      · simp only [hsum, not_false_iff, and_true, true_iff]
        exact hall

theorem checkFinite_eq_ok_iff {field : FitnessField} {value : Float} :
    checkFinite field value = .ok () ↔ value.isFinite = true := by
  unfold checkFinite
  split_ifs with hfinite
  · simp [hfinite]
  · simp [hfinite]

section

variable {ε δ α : Type}

theorem bind_eq_ok_iff {x : Except ε Unit} {f : Unit → Except ε α} {a : α} :
    x >>= f = .ok a ↔ x = .ok () ∧ f () = .ok a := by
  cases x with
  | error e => simp [bind, Except.bind]
  | ok u => simp [bind, Except.bind]

theorem mapError_eq_ok_iff {x : Except ε Unit} {f : ε → δ} :
    x.mapError f = .ok () ↔ x = .ok () := by
  cases x with
  | error e => simp [Except.mapError]
  | ok u => simp [Except.mapError]

end

theorem validate_eq_ok_iff {config : Config} : config.validate = .ok () ↔ config.Valid := by
  have hcheck : config.validate = .ok () ↔
      config.lineages ≠ 0 ∧ config.generationsPerLineage ≠ 0 ∧
        checkRange config.mutationsPerGeneration = .ok () ∧
        checkWeights config.mutationWeights = .ok () ∧
        checkFinite .correctnessBonus config.fitness.correctnessBonus = .ok () ∧
        checkFinite .incorrectnessPenalty config.fitness.incorrectnessPenalty = .ok () ∧
        checkFinite .complexityPenalty config.fitness.complexityPenalty = .ok () := by
    unfold validate
    by_cases hlineages : config.lineages = 0
    · simp [hlineages, bind_eq_ok_iff, throw, throwThe, MonadExceptOf.throw]
    by_cases hgenerations : config.generationsPerLineage = 0
    · simp [hlineages, hgenerations, bind_eq_ok_iff, throw, throwThe, MonadExceptOf.throw]
    simp [hlineages, hgenerations, bind_eq_ok_iff, mapError_eq_ok_iff]
  rw [hcheck, checkRange_eq_ok_iff, checkWeights_eq_ok_iff, checkFinite_eq_ok_iff,
    checkFinite_eq_ok_iff, checkFinite_eq_ok_iff]
  constructor
  · rintro ⟨hlineages, hgenerations, ⟨hminimum, hrange⟩, ⟨hweights, hpositive⟩, hbonus, hpenalty,
      hcomplexity⟩
    exact ⟨hlineages, hgenerations, hminimum, hrange, hweights, hpositive, hbonus, hpenalty,
      hcomplexity⟩
  · intro h
    exact ⟨h.lineages, h.generations, ⟨h.minimum, h.range⟩, ⟨h.weights, h.positive⟩, h.bonus,
      h.penalty, h.complexity⟩

end RegexInference.Config
