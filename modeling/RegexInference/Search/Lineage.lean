import RegexInference.Fitness
import RegexInference.Genotype.Basic

/-!
# Lineages

A lineage is one random walk towards higher fitness.  In every generation it mutates a candidate,
scores the trial, and keeps it if it is strictly better than all before.
-/

namespace RegexInference

/-- A range of mutation counts that is not empty. -/
structure MutationRange where
  min : Nat
  max : Nat
  min_le_max : min ≤ max

def MutationRange.ofPair? (range : Nat × Nat) : Option MutationRange :=
  if h : range.1 ≤ range.2 then some ⟨range.1, range.2, h⟩ else none

def MutationRange.draw {σ : Type} [Random.Source σ] (range : MutationRange) :
    Random.Draw σ Nat :=
  Random.between range.min range.max

/-- What all lineages of a search share. -/
structure LineageSetting (V : Type) where
  vocabulary : V
  operators : OperatorWheel
  mutations : MutationRange
  policy : Policy

/-- What came of a generation. -/
inductive Verdict where
  /-- The trial is better than all before. -/
  | improved
  | unchanged
  /-- The trial is a perfect classifier. -/
  | perfect
  deriving DecidableEq, Repr

structure Lineage (σ G : Type) where
  source : σ
  best : G
  bestFitness : Float := -Fitness.infinity
  /-- The last trial, which a drifting lineage mutates. -/
  current : G
  generation : Nat := 0
  perfect : Bool := false

structure LineageOutcome (G : Type) where
  best : G
  fitness : Float
  generations : Nat
  perfect : Bool

namespace Lineage

variable {σ G V : Type} [Random.Source σ] [Genotype G V]

def new (source : σ) : Lineage σ G :=
  { source, best := Genotype.empty, current := Genotype.empty }

/-- The candidate that the next generation mutates. -/
def base (policy : Policy) (l : Lineage σ G) : G :=
  match policy with
  | .hillClimb => l.best
  | .drift => l.current

/-- The trial of the next generation, and the source behind it. -/
def trial (setting : LineageSetting V) (l : Lineage σ G) : G × σ :=
  (do
    let count ← setting.mutations.draw
    Genotype.mutateTimes setting.operators setting.vocabulary count (l.base setting.policy)
    : Random.Draw σ G).run l.source

/-- Takes a scored trial into account. -/
def accept (policy : Policy) (trial : G) (fitness : Float) (source : σ) (l : Lineage σ G) :
    Verdict × Lineage σ G :=
  let next : Lineage σ G :=
    { l with
      source
      generation := l.generation + 1
      current := match policy with | .drift => trial | .hillClimb => l.current }
  if Fitness.isPerfect fitness then
    (.perfect, { next with best := trial, bestFitness := fitness, perfect := true })
  else if fitness > l.bestFitness then
    (.improved, { next with best := trial, bestFitness := fitness })
  else (.unchanged, next)

def step (setting : LineageSetting V) (e : Evaluator) (l : Lineage σ G) :
    Verdict × Lineage σ G × Evaluator :=
  let (trial, source) := l.trial setting
  let (fitness, e) := e.score (Genotype.toPattern trial)
  let (outcome, l) := l.accept setting.policy trial fitness source
  (outcome, l, e)

/-- Runs for at most `remaining` generations.  The lineage stops when a trial is perfect, or when
`halt` says so; it is asked before every generation, with the number of times it was asked
before. -/
def runFor (setting : LineageSetting V) (halt : Nat → Bool) :
    (remaining asked : Nat) → Evaluator → Lineage σ G → Lineage σ G × Evaluator
  | 0, _, e, l => (l, e)
  | remaining + 1, asked, e, l =>
    if halt asked then (l, e)
    else
      match l.step setting e with
      | (.perfect, l, e) => (l, e)
      | (_, l, e) => runFor setting halt remaining (asked + 1) e l

/-- Runs until the budget is used up, which counts generations from the start of the lineage. -/
def run (setting : LineageSetting V) (budget : Nat) (halt : Nat → Bool) (e : Evaluator)
    (l : Lineage σ G) : Lineage σ G × Evaluator :=
  l.runFor setting halt (budget - l.generation) 0 e

def outcome (l : Lineage σ G) : LineageOutcome G :=
  { best := l.best, fitness := l.bestFitness, generations := l.generation, perfect := l.perfect }

end Lineage

end RegexInference
