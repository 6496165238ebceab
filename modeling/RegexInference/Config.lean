import RegexInference.Decimal.Layout
import RegexInference.Matcher
import RegexInference.Operator

/-!
# Search configuration

Every setting of a search with its default, and the conditions that a configuration has to meet.
-/

namespace RegexInference

structure FitnessParams where
  mode : MatchMode := .span
  /-- The reward for a text that is classified correctly, or in span mode for every character
  matched in a good text. -/
  correctnessBonus : Float := 10.0
  /-- The reward, a negative number, for a text that is classified wrongly, or in span mode for
  every character matched in a bad text. -/
  incorrectnessPenalty : Float := -5.0
  /-- The price of every character of the pattern. -/
  complexityPenalty : Float := 1.0
  /-- Scores zero when the good texts earn nothing. -/
  clampUnrewarded : Bool := false
  deriving BEq

/-- Which candidate a lineage changes in every generation. -/
inductive Policy where
  /-- The best one so far. -/
  | hillClimb
  /-- The last one tried, whatever it scored. -/
  | drift
  deriving DecidableEq, Repr

/-- How candidates are represented. -/
inductive Representation where
  | sequence
  | tree
  deriving DecidableEq, Repr

structure Config where
  lineages : Nat := 100
  generationsPerLineage : Nat := 500
  /-- The least and the greatest number of mutations in a generation. -/
  mutationsPerGeneration : Nat × Nat := (1, 3)
  mutationWeights : Weights := {}
  fitness : FitnessParams := {}
  policy : Policy := .hillClimb
  representation : Representation := .sequence
  /-- Lineages stop once one of them has found a perfect pattern. -/
  stopOnPerfect : Bool := true
  randomSeed : Option UInt64 := none
  deriving BEq

inductive RangeError where
  | zeroMinimum
  | reversed (min max : Nat)
  deriving DecidableEq, Repr

inductive WeightError where
  | notAllowed (weight : Float)
  | nonePositive
  /-- The wheel of operators refuses a weight. -/
  | refused
  /-- The wheel of operators has no weight to go by. -/
  | allZero

/-- The fitness parameters that have to be finite. -/
inductive FitnessField where
  | correctnessBonus
  | incorrectnessPenalty
  | complexityPenalty
  deriving DecidableEq, Repr

inductive ConfigError where
  | noLineages
  | noGenerations
  | invalidMutationRange (cause : RangeError)
  | invalidWeight (cause : WeightError)
  | nonFiniteFitness (field : FitnessField) (value : Float)

def RangeError.message : RangeError → String
  | zeroMinimum => "minimum must be at least 1"
  | reversed min max => "min (" ++ toString min ++ ") > max (" ++ toString max ++ ")"

def WeightError.message : WeightError → String
  | notAllowed weight =>
    "Weight " ++ Decimal.Layout.message.write weight ++ " must be finite and non-negative"
  | nonePositive => "at least one weight must be positive"
  | refused => "A weight is invalid in distribution"
  | allZero => "All weights are zero in distribution"

def FitnessField.name : FitnessField → String
  | correctnessBonus => "correctness_bonus"
  | incorrectnessPenalty => "incorrectness_penalty"
  | complexityPenalty => "complexity_penalty"

def ConfigError.message : ConfigError → String
  | noLineages => "At least one lineage is required"
  | noGenerations => "Generations per lineage must be positive"
  | invalidMutationRange cause => "Invalid mutation range: " ++ cause.message
  | invalidWeight cause => "Invalid mutation weight: " ++ cause.message
  | nonFiniteFitness field value =>
    "Fitness parameter " ++ field.name ++ " must be finite, got " ++
      Decimal.Layout.message.write value

namespace Config

/-- At least one mutation happens, and the range is not empty. -/
def checkRange (range : Nat × Nat) : Except RangeError Unit :=
  if range.1 = 0 then .error .zeroMinimum
  else if range.1 > range.2 then .error (.reversed range.1 range.2)
  else .ok ()

/-- All weights are finite and none is negative, and some weight is positive. -/
def checkWeights (weights : Weights) : Except WeightError Unit :=
  match weights.toList.find? fun w => !w.isFinite || w < 0.0 with
  | some w => .error (.notAllowed w)
  | none => if weights.sum ≤ 0.0 then .error .nonePositive else .ok ()

def checkFinite (field : FitnessField) (value : Float) : Except ConfigError Unit :=
  if value.isFinite then .ok () else .error (.nonFiniteFitness field value)

def validate (config : Config) : Except ConfigError Unit := do
  if config.lineages = 0 then throw .noLineages
  if config.generationsPerLineage = 0 then throw .noGenerations
  (checkRange config.mutationsPerGeneration).mapError .invalidMutationRange
  (checkWeights config.mutationWeights).mapError .invalidWeight
  checkFinite .correctnessBonus config.fitness.correctnessBonus
  checkFinite .incorrectnessPenalty config.fitness.incorrectnessPenalty
  checkFinite .complexityPenalty config.fitness.complexityPenalty

end Config

end RegexInference
