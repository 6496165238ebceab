import RegexInference.Config
import RegexInference.Json.Record

/-!
# Configurations as documents

Every setting that a document does not give keeps its default, at both levels.
-/

namespace RegexInference

open Json

/-- The numbers of 64 bits. -/
def wordLimit : Nat := UInt64.size

/-- A count of 64 bits. -/
def countReader : Reader Nat := .natural wordLimit "usize"

namespace MatchMode

def names : List (String × MatchMode) := [("Classic", .classic), ("Span", .span)]

def name : MatchMode → String
  | classic => "Classic"
  | span => "Span"

end MatchMode

namespace Policy

def names : List (String × Policy) := [("HillClimb", .hillClimb), ("Drift", .drift)]

def name : Policy → String
  | hillClimb => "HillClimb"
  | drift => "Drift"

end Policy

namespace Representation

def names : List (String × Representation) := [("Sequence", .sequence), ("Tree", .tree)]

def name : Representation → String
  | sequence => "Sequence"
  | tree => "Tree"

end Representation

namespace Weights

def toJson (w : Weights) : Value :=
  .object [("insert", .float w.insert), ("delete", .float w.delete),
    ("replace", .float w.replace), ("duplicate", .float w.duplicate)]

def fields : List (RecordField Weights) := [
  .optional "insert" .float fun x w => { w with insert := x },
  .optional "delete" .float fun x w => { w with delete := x },
  .optional "replace" .float fun x w => { w with replace := x },
  .optional "duplicate" .float fun x w => { w with duplicate := x }]

def reader : Reader Weights := Reader.record "MutationWeights" fields {}

end Weights

namespace FitnessParams

def toJson (p : FitnessParams) : Value :=
  .object [("mode", .string p.mode.name), ("correctness_bonus", .float p.correctnessBonus),
    ("incorrectness_penalty", .float p.incorrectnessPenalty),
    ("complexity_penalty", .float p.complexityPenalty),
    ("clamp_unrewarded", .boolean p.clampUnrewarded)]

def fields : List (RecordField FitnessParams) := [
  .optional "mode" (.variant MatchMode.names) fun x p => { p with mode := x },
  .optional "correctness_bonus" .float fun x p => { p with correctnessBonus := x },
  .optional "incorrectness_penalty" .float fun x p => { p with incorrectnessPenalty := x },
  .optional "complexity_penalty" .float fun x p => { p with complexityPenalty := x },
  .optional "clamp_unrewarded" .boolean fun x p => { p with clampUnrewarded := x }]

def reader : Reader FitnessParams := Reader.record "FitnessConfig" fields {}

end FitnessParams

namespace Config

def toJson (c : Config) : Value :=
  .object [("lineages", .integer c.lineages),
    ("generations_per_lineage", .integer c.generationsPerLineage),
    ("mutations_per_generation",
      .array [.integer c.mutationsPerGeneration.1, .integer c.mutationsPerGeneration.2]),
    ("mutation_weights", c.mutationWeights.toJson),
    ("fitness", c.fitness.toJson),
    ("policy", .string c.policy.name),
    ("representation", .string c.representation.name),
    ("stop_on_perfect", .boolean c.stopOnPerfect),
    ("random_seed",
      match c.randomSeed with
      | none => .null
      | some seed => .integer seed.toNat)]

/-- The fields of a configuration, none of which has to be given. -/
def fields : List (RecordField Config) := [
  .optional "lineages" countReader fun x c => { c with lineages := x },
  .optional "generations_per_lineage" countReader
    fun x c => { c with generationsPerLineage := x },
  .optional "mutations_per_generation" (.pair countReader countReader)
    fun x c => { c with mutationsPerGeneration := x },
  .optional "mutation_weights" Weights.reader fun x c => { c with mutationWeights := x },
  .optional "fitness" FitnessParams.reader fun x c => { c with fitness := x },
  .optional "policy" (.variant Policy.names) fun x c => { c with policy := x },
  .optional "representation" (.variant Representation.names)
    fun x c => { c with representation := x },
  .optional "stop_on_perfect" .boolean fun x c => { c with stopOnPerfect := x },
  .optional "random_seed" (.optional (.natural wordLimit "u64"))
    fun x c => { c with randomSeed := x.map Nat.toUInt64 }]

def reader : Reader Config := Reader.record "SearchConfig" fields {}

def ofJson (text : String) : Except Json.Error Config := reader.run text

end Config

end RegexInference
