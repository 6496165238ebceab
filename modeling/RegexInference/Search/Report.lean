/-!
# Search results

What a search reports: the winning pattern with its score, and how the search went.
-/

namespace RegexInference

inductive StopReason where
  /-- Every lineage used up its budget. -/
  | completed
  /-- A lineage found a perfect pattern. -/
  | perfectMatch
  | cancelled
  deriving DecidableEq, Repr

structure SearchStatistics where
  lineages : Nat
  /-- The generations of all lineages together. -/
  generations : Nat
  /-- The scores computed, the last one of the winner included. -/
  evaluations : Nat
  /-- The winner is a perfect classifier. -/
  perfect : Bool
  stopReason : StopReason
  elapsedSeconds : Float

structure SearchReport where
  /-- The winning pattern; empty when no candidate compiled. -/
  pattern : String
  fitnessScore : Float
  accuracy : Nat
  stats : SearchStatistics

/-- A report after a lineage has ended. -/
structure Progress where
  completed : Nat
  total : Nat
  /-- The best fitness of the lineage that has just ended. -/
  bestFitness : Float

end RegexInference
