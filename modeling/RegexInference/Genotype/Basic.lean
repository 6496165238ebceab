import RegexInference.Alphabet
import RegexInference.Operator

/-!
# Genotypes

What a search needs of the representation of its candidates: where they start, how they are written
as a pattern, and how one operator changes them.
-/

namespace RegexInference

/-- A representation `G` of candidates, whose edits draw fresh parts from a vocabulary `V`. -/
class Genotype (G : Type) (V : outParam Type) where
  vocabulary : Alphabet → V
  /-- The candidate that every lineage starts from. -/
  empty : G
  size : G → Nat
  toPattern : G → String
  mutate : {σ : Type} → [Random.Source σ] → Operator → V → G → Random.Draw σ G

namespace Genotype

variable {G V : Type} [Genotype G V] {σ : Type} [Random.Source σ]

/-- Draws and applies this many operators in turn. -/
def mutateTimes (wheel : OperatorWheel) (vocabulary : V) : (count : Nat) → G → Random.Draw σ G
  | 0, g => return g
  | count + 1, g => do
    let op ← wheel.spin
    let next ← Genotype.mutate op vocabulary g
    mutateTimes wheel vocabulary count next

end Genotype

end RegexInference
