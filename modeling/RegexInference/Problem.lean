/-!
# Search problems

What a caller hands in: the tokens a pattern may be made of, the texts it shall match, and the texts
it shall not match.
-/

namespace RegexInference

structure Problem where
  alphabet : List String := []
  /-- Texts that count as matched. -/
  good : List String := []
  /-- Texts that count as not matched. -/
  bad : List String := []
  deriving DecidableEq, Repr

/-- A small problem about binary numerals. -/
def Problem.example : Problem :=
  { alphabet := ["0", "1"], good := ["101010"], bad := ["111111", "000000"] }

/-- The texts that patterns are scored against. -/
structure Corpus where
  positive : List String
  negative : List String
  deriving DecidableEq, Repr

namespace Corpus

def ofProblem (problem : Problem) : Corpus := ⟨problem.good, problem.bad⟩

def size (corpus : Corpus) : Nat := corpus.positive.length + corpus.negative.length

end Corpus

end RegexInference
