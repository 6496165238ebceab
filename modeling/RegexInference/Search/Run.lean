import RegexInference.Genotype.Sequence
import RegexInference.Genotype.SyntaxTree
import RegexInference.Random.Cipher
import RegexInference.Search.Lineage
import RegexInference.Search.Report

/-!
# Searches

A search runs many lineages, each from a seed of its own, one after the other in the order of their
seeds.  The best lineage wins; of equally good ones the earliest.

A search can be cancelled at any time.  The running lineage then stops before its next generation,
and those after it do not take one.
-/

namespace RegexInference

/-- A time in the course of a search: so many lineages have ended, and the one behind them was asked
so many times whether to stop. -/
structure Moment where
  ended : Nat
  asked : Nat := 0
  deriving DecidableEq, Repr

/-- Whether a moment has come when `ended` lineages have ended and the next one was asked `asked`
times; no moment never comes. -/
def Moment.hasCome (moment : Option Moment) (ended asked : Nat) : Bool :=
  moment.any fun m => m.ended < ended || (m.ended == ended && m.asked ≤ asked)

/-- A configuration that was accepted, with what is built from it. -/
structure Search where
  config : Config
  operators : OperatorWheel
  mutations : MutationRange

/-- Why no search can be set up. -/
inductive SetupError where
  | config (e : ConfigError)
  /-- Something has no bounds to draw from or to make room in: weights that are finite each sum to
  infinity, or a vector cannot hold the seeds of all lineages. -/
  | overflow

def SetupError.operators (weights : Weights) : Except SetupError OperatorWheel :=
  match OperatorWheel.ofWeights weights with
  | .ok wheel => .ok wheel
  | .error .invalidWeight => .error (.config (.invalidWeight .refused))
  | .error .allZero => .error (.config (.invalidWeight .allZero))
  | .error .overflow => .error .overflow

/-- The best candidate among some results.  A result wins over earlier ones only if it is strictly
better, and over the empty candidate only if it is better than minus infinity. -/
def LineageOutcome.winner {G V : Type} [Genotype G V] (results : List (LineageOutcome G)) : G :=
  (results.foldl
    (fun (best : G × Float) r => if r.fitness > best.2 then (r.best, r.fitness) else best)
    (Genotype.empty, -Fitness.infinity)).1

namespace Search

def ofConfig (config : Config) : Except SetupError Search := do
  config.validate.mapError .config
  let operators ← SetupError.operators config.mutationWeights
  match MutationRange.ofPair? config.mutationsPerGeneration with
  | some mutations => return { config, operators, mutations }
  | none =>
    let (min, max) := config.mutationsPerGeneration
    throw (.config (.invalidMutationRange (.reversed min max)))

def seeds {σ : Type} [Random.Source σ] : (n : Nat) → σ → List UInt64
  | 0, _ => []
  | n + 1, source =>
    let (seed, source) := Random.word64.run source
    seed :: seeds n source

/-- What lineages leave behind for those after them. -/
structure Ledger (G : Type) where
  evaluator : Evaluator
  /-- A lineage found a perfect pattern. -/
  solved : Bool := false
  /-- The search was cancelled before the last lineage or right behind it. -/
  cancelled : Bool
  /-- The results of the lineages so far, the last one first. -/
  results : List (LineageOutcome G) := []

section

variable {G V : Type} [Genotype G V]

def context (s : Search) (alphabet : Alphabet) : LineageSetting V :=
  { vocabulary := Genotype.vocabulary G alphabet
    operators := s.operators
    mutations := s.mutations
    policy := s.config.policy }

/-- Runs the lineage of a seed.  The search is cancelled when `cancelAt` has come. -/
def runLineage (s : Search) (setting : LineageSetting V) (cancelAt : Option Moment)
    (ledger : Ledger G) (seed : UInt64) : Ledger G :=
  let ended := ledger.results.length
  let solved := s.config.stopOnPerfect && ledger.solved
  let (lineage, evaluator) :=
    (Lineage.new (Random.Stream.ofSeed seed) : Lineage Random.Stream G).run setting
      s.config.generationsPerLineage (fun asked => Moment.hasCome cancelAt ended asked || solved)
      ledger.evaluator
  let result := lineage.outcome
  { evaluator
    solved := ledger.solved || result.perfect
    cancelled := Moment.hasCome cancelAt (ended + 1) 0
    results := result :: ledger.results }

def runLineages (s : Search) (problem : Problem) (seed : UInt64)
    (cancelAt : Option Moment) : Ledger G :=
  let setting : LineageSetting V := s.context (G := G) (Alphabet.ofTokens problem.alphabet)
  let start : Ledger G :=
    { evaluator := { params := s.config.fitness, corpus := Corpus.ofProblem problem }
      cancelled := Moment.hasCome cancelAt 0 0 }
  (seeds s.config.lineages (Random.Stream.ofSeed seed)).foldl (s.runLineage setting cancelAt) start

/-- The result of a search whose lineages have all ended.  The winner is scored once more. -/
def conclude (ledger : Ledger G) : SearchReport :=
  let results := ledger.results.reverse
  let best : G := LineageOutcome.winner results
  let pattern := Genotype.toPattern best
  let (fitnessScore, evaluator) := ledger.evaluator.score pattern
  { pattern
    fitnessScore
    accuracy := evaluator.accuracy pattern
    stats :=
      { lineages := results.length
        generations := (results.map LineageOutcome.generations).foldl (· + ·) 0
        evaluations := evaluator.evaluations
        perfect := Fitness.isPerfect fitnessScore
        stopReason :=
          if ledger.cancelled then .cancelled
          else if results.any LineageOutcome.perfect then .perfectMatch
          else .completed
        elapsedSeconds := 0.0 } }

/-- The reports of a search whose lineages have all ended. -/
def reports (total : Nat) (ledger : Ledger G) : List Progress :=
  ledger.results.reverse.mapIdx fun i r =>
    { completed := i + 1, total, bestFitness := r.fitness }

/-- Runs a search over candidates of one representation. -/
def search (G : Type) {V : Type} [Genotype G V] (s : Search) (problem : Problem)
    (seed : UInt64) (cancelAt : Option Moment) : SearchReport × List Progress :=
  let ledger : Ledger G := s.runLineages problem seed cancelAt
  (conclude ledger, reports s.config.lineages ledger)

end

/-- Runs the search until it ends or is cancelled, and reports on every lineage.  The seed of the
configuration is used if it has one, `entropy` otherwise. -/
def runUntil (s : Search) (problem : Problem) (entropy : UInt64) (cancelAt : Option Moment) :
    SearchReport × List Progress :=
  let seed := s.config.randomSeed.getD entropy
  match s.config.representation with
  | .sequence => s.search Sequence problem seed cancelAt
  | .tree => s.search SyntaxTree problem seed cancelAt

/-- Runs the search.  `cancelAt` is the number of ended lineages at which it is cancelled. -/
def run (s : Search) (problem : Problem) (entropy : UInt64)
    (cancelAt : Option Nat := none) : SearchReport × List Progress :=
  s.runUntil problem entropy (cancelAt.map fun ended => { ended })

end Search

/-- The seeds that a vector can hold: it has no more than `2 ^ 63 - 1` bytes, and a seed takes
eight. -/
def maxSeeds : Nat := (Nat.pow 2 63 - 1) / 8

def solve (problem : Problem) (config : Config) (entropy : UInt64) :
    Except SetupError SearchReport := do
  let s ← Search.ofConfig config
  if config.lineages > maxSeeds then throw .overflow
  return (s.run problem entropy).1

end RegexInference
