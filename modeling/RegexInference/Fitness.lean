import RegexInference.Config
import RegexInference.Problem

/-!
# Fitness

A pattern is scored against the corpus.  A pattern that does not compile scores minus infinity, a
perfect classifier in span mode plus infinity; any other pattern earns rewards for the texts and
pays for its length.
-/

namespace RegexInference

namespace Fitness

/-- The score of a perfect classifier. -/
def infinity : Float := 1.0 / 0.0

/-- Whether a score is that of a perfect classifier. -/
def isPerfect (score : Float) : Bool := score == infinity

/-- The complexity of a pattern, its length in characters. -/
def complexity (pattern : String) : Float := Float.ofNat pattern.length

/-- The sum of some rewards in order, starting from negative zero. -/
def total (rewards : List Float) : Float := rewards.foldl (· + ·) (-0.0)

/-- The rewards of the good and the bad texts when each text counts once. -/
def rewardsPerText (params : FitnessParams) (corpus : Corpus) (p : Matcher) :
    Float × Float :=
  let bonus := params.correctnessBonus
  let penalty := params.incorrectnessPenalty
  (total (corpus.positive.map fun s => if p.accepts s then bonus else penalty),
    total (corpus.negative.map fun s => if p.accepts s then penalty else bonus))

/-- The longest matches in some texts, added up. -/
def spans (p : Matcher) (texts : List String) : Nat :=
  (texts.map p.longestMatch).foldl (· + ·) 0

/-- The rewards of the good and the bad texts when every matched character counts. -/
def rewardsPerCharacter (params : FitnessParams) (corpus : Corpus) (p : Matcher) :
    Float × Float :=
  (params.correctnessBonus * Float.ofNat (spans p corpus.positive),
    params.incorrectnessPenalty * Float.ofNat (spans p corpus.negative))

/-- There is a good text, no bad text contains a match, and every good text is matched whole. -/
def separates (corpus : Corpus) (p : Matcher) : Bool :=
  !corpus.positive.isEmpty && !corpus.negative.any p.accepts && corpus.positive.all p.matchesEntire

/-- The score of a pattern that compiles, from the rewards of the good and the bad texts. -/
def balance (params : FitnessParams) (pattern : String) (positive negative : Float) : Float :=
  if params.clampUnrewarded && positive ≤ 0.0 then 0.0
  else positive + negative - params.complexityPenalty * complexity pattern

def score (params : FitnessParams) (corpus : Corpus) (pattern : String) : Float :=
  match Matcher.ofPattern pattern params.mode with
  | .error _ => -infinity
  | .ok p =>
    match params.mode with
    | .classic =>
      let (positive, negative) := rewardsPerText params corpus p
      balance params pattern positive negative
    | .span =>
      if separates corpus p then infinity
      else
        let (positive, negative) := rewardsPerCharacter params corpus p
        balance params pattern positive negative

/-- How many texts a pattern classifies correctly. -/
def correctCount (corpus : Corpus) (p : Matcher) : Nat :=
  corpus.positive.countP p.accepts + corpus.negative.countP (!p.accepts ·)

/-- A number from 0 to 100 rounded to the nearest whole number, a half upwards. -/
def roundedShare (share : Float) : Nat :=
  let whole := share.toUInt64
  let rest := share - whole.toFloat
  min 100 (whole.toNat + if rest ≥ 0.5 then 1 else 0)

/-- The percentage of texts that a pattern classifies correctly; 0 for an empty corpus or a pattern
that does not compile. -/
def accuracy (params : FitnessParams) (corpus : Corpus) (pattern : String) : Nat :=
  if corpus.size = 0 then 0
  else
    match Matcher.ofPattern pattern params.mode with
    | .error _ => 0
    | .ok p =>
      roundedShare (100.0 * Float.ofNat (correctCount corpus p) / Float.ofNat corpus.size)

end Fitness

/-- Scores patterns against a corpus and counts the scores. -/
structure Evaluator where
  params : FitnessParams
  corpus : Corpus
  /-- How many scores were computed. -/
  evaluations : Nat := 0

namespace Evaluator

def score (e : Evaluator) (pattern : String) : Float × Evaluator :=
  (Fitness.score e.params e.corpus pattern, { e with evaluations := e.evaluations + 1 })

/-- The percentage of texts that a pattern classifies correctly.  This does not count as a score. -/
def accuracy (e : Evaluator) (pattern : String) : Nat :=
  Fitness.accuracy e.params e.corpus pattern

end Evaluator

end RegexInference
