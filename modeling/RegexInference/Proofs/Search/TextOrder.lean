import RegexInference.Proofs.Search.Interleaving

/-!
# The order of the texts

In span mode a score multiplies only after the matched characters of all texts have been counted, and
an accuracy counts texts in either mode.  So neither depends on the order in which the texts are
listed.  All that a search learns of its texts are scores; so with the texts in another order it takes
the same course from the first generation to the last.
-/

namespace RegexInference

/-- The same texts, the good ones and the bad ones each in any order. -/
structure Corpus.Reorders (a b : Corpus) : Prop where
  positive : a.positive.Perm b.positive
  negative : a.negative.Perm b.negative

/-- The same problem, with the good texts and the bad texts each in any order. -/
structure Problem.Reorders (a b : Problem) : Prop where
  alphabet : a.alphabet = b.alphabet
  good : a.good.Perm b.good
  bad : a.bad.Perm b.bad

theorem Problem.Reorders.corpus {a b : Problem} (h : a.Reorders b) :
    (Corpus.ofProblem a).Reorders (Corpus.ofProblem b) := ⟨h.good, h.bad⟩

/-! ## Scores and shares -/

namespace Fitness

variable {a b : Corpus} (p : Matcher)

theorem spans_perm {texts texts' : List String} (h : texts.Perm texts') :
    spans p texts = spans p texts' := by
  unfold spans
  rw [← List.sum_eq_foldl, ← List.sum_eq_foldl]
  exact (h.map p.longestMatch).sum_eq

variable (h : a.Reorders b)
include h

theorem separates_reorders : separates a p = separates b p := by
  unfold separates
  rw [h.positive.isEmpty_eq, h.negative.any_eq, h.positive.all_eq]

theorem rewardsPerCharacter_reorders (params : FitnessParams) :
    rewardsPerCharacter params a p = rewardsPerCharacter params b p := by
  unfold rewardsPerCharacter
  rw [spans_perm p h.positive, spans_perm p h.negative]

theorem correctCount_reorders : correctCount a p = correctCount b p := by
  unfold correctCount
  rw [h.positive.countP_eq, h.negative.countP_eq]

theorem size_reorders : a.size = b.size := by
  unfold Corpus.size
  rw [h.positive.length_eq, h.negative.length_eq]

theorem score_reorders {params : FitnessParams} (hmode : params.mode = .span) (pattern : String) :
    score params a pattern = score params b pattern := by
  unfold score
  rw [hmode]
  cases Matcher.ofPattern pattern .span with
  | error e => rfl
  | ok p => simp only [separates_reorders p h, rewardsPerCharacter_reorders p h]

theorem accuracy_reorders (params : FitnessParams) (pattern : String) :
    accuracy params a pattern = accuracy params b pattern := by
  unfold accuracy
  rw [size_reorders h]
  simp only [correctCount_reorders _ h]

end Fitness

/-! ## One course for texts that score alike -/

/-- The evaluator with these texts in the place of its own. -/
def Evaluator.on (e : Evaluator) (corpus : Corpus) : Evaluator := { e with corpus }

/-- No score tells these texts from those of the evaluator. -/
def Evaluator.ScoresAlike (e : Evaluator) (corpus : Corpus) : Prop :=
  ∀ pattern, Fitness.score e.params corpus pattern = Fitness.score e.params e.corpus pattern

variable {G V : Type} [Genotype G V] {corpus : Corpus}

namespace Lineage

variable {σ : Type} [Random.Source σ] (setting : LineageSetting V)

theorem step_on {e : Evaluator} (halike : e.ScoresAlike corpus) (l : Lineage σ G) :
    l.step setting (e.on corpus) =
      ((l.step setting e).1, (l.step setting e).2.1, (l.step setting e).2.2.on corpus) := by
  have hscore := halike (Genotype.toPattern (l.trial setting).1)
  unfold step Evaluator.score Evaluator.on
  dsimp only
  rw [hscore]

theorem runFor_on (halt : ℕ → Bool) (remaining asked : ℕ) {e : Evaluator}
    (halike : e.ScoresAlike corpus) (l : Lineage σ G) :
    (l.runFor setting halt remaining asked (e.on corpus)).1 =
      (l.runFor setting halt remaining asked e).1 := by
  induction remaining generalizing asked e l with
  | zero => rfl
  | succ remaining ih =>
      rw [runFor_succ, runFor_succ, step_on setting halike]
      split_ifs with hhalt hperfect
      · rfl
      · rfl
      · -- The evaluator has counted one score more, and scores as before.
        have hnext : (l.step setting e).2.2.ScoresAlike corpus := halike
        exact ih (asked + 1) hnext (l.step setting e).2.1

end Lineage

namespace Search

/-- What is told of texts that score alike and are classified alike is the same. -/
theorem conclude_on (ledger : Ledger G) (halike : ledger.evaluator.ScoresAlike corpus)
    (haccuracy : ∀ pattern, Fitness.accuracy ledger.evaluator.params corpus pattern =
      ledger.evaluator.accuracy pattern) :
    conclude { ledger with evaluator := ledger.evaluator.on corpus } = conclude ledger := by
  have hscore := halike (Genotype.toPattern (LineageOutcome.winner ledger.results.reverse))
  have hshare := haccuracy (Genotype.toPattern (LineageOutcome.winner ledger.results.reverse))
  unfold Evaluator.accuracy at hshare
  unfold conclude Evaluator.score Evaluator.accuracy Evaluator.on
  dsimp only
  rw [hscore, hshare]

/-! ## Lineages one after the other -/

theorem outcomeAt_on (s : Search) (setting : LineageSetting V) {e : Evaluator}
    (halike : e.ScoresAlike corpus) :
    (s.outcomeAt setting (e.on corpus) : Option Moment → ℕ → UInt64 → LineageOutcome G) =
      s.outcomeAt setting e := by
  funext cancelAt ended seed
  exact congrArg Lineage.outcome (Lineage.runFor_on setting _ _ 0 halike _)

section

variable {s : Search} {a b : Problem} (h : a.Reorders b) (hmode : s.config.fitness.mode = .span)
include h hmode

theorem scoresAlike_evaluator : (s.evaluator a).ScoresAlike (Corpus.ofProblem b) :=
  fun pattern => (Fitness.score_reorders h.corpus hmode pattern).symm

theorem outcomesAlone_reorders (seed : UInt64) (cancelAt : Option Moment) :
    s.outcomesAlone G b seed cancelAt = s.outcomesAlone G a seed cancelAt := by
  have hevaluator : s.evaluator b = (s.evaluator a).on (Corpus.ofProblem b) := rfl
  unfold outcomesAlone
  rw [hevaluator, outcomeAt_on s _ (scoresAlike_evaluator h hmode), h.alphabet]

theorem search_reorders (seed : UInt64) (cancelAt : Option Moment) :
    s.search G b seed cancelAt = s.search G a seed cancelAt := by
  have hledger : (s.runLineages b seed cancelAt : Ledger G) =
      { s.runLineages a seed cancelAt with
        evaluator := (s.runLineages a seed cancelAt : Ledger G).evaluator.on
          (Corpus.ofProblem b) } := by
    rw [runLineages_eq_ofResults, runLineages_eq_ofResults, outcomesAlone_reorders h hmode]
    rfl
  have hshared : (s.runLineages a seed cancelAt : Ledger G).evaluator.ScoresAlike
      (Corpus.ofProblem b) := by
    rw [runLineages_eq_ofResults]
    exact scoresAlike_evaluator h hmode
  unfold search
  dsimp only
  rw [hledger, conclude_on _ hshared]
  · rfl
  · intro pattern
    rw [runLineages_eq_ofResults]
    exact (Fitness.accuracy_reorders h.corpus s.config.fitness pattern).symm

end

/-! ## Lineages side by side -/

/-- The pool with these texts in the place of its own. -/
def Pool.on (pool : Pool G) (corpus : Corpus) : Pool G :=
  { pool with evaluator := pool.evaluator.on corpus }

theorem Worker.turn_on (setting : LineageSetting V) (budget : ℕ) (halted : Bool) {e : Evaluator}
    (halike : e.ScoresAlike corpus) (w : Worker G) :
    w.turn setting budget halted (e.on corpus) =
      ((w.turn setting budget halted e).1, (w.turn setting budget halted e).2.on corpus) := by
  unfold turn
  cases w.phase with
  | walking =>
      dsimp only
      rw [Lineage.step_on setting halike]
      split_ifs <;> rfl
  | leaving => rfl
  | ended => rfl

theorem Pool.move_on (pool : Pool G) (total i : ℕ) (w : Worker G) (next : Worker G × Evaluator) :
    (pool.on corpus).move total i w (next.1, next.2.on corpus) =
      (pool.move total i w next).on corpus := by
  unfold move
  dsimp only
  split_ifs <;> rfl

theorem occur_on (s : Search) (setting : LineageSetting V) {pool : Pool G}
    (halike : pool.evaluator.ScoresAlike corpus) (event : Event) :
    s.occur setting (pool.on corpus) event = (s.occur setting pool event).on corpus := by
  cases event with
  | cancel => rfl
  | turn i =>
      have hworkers : (pool.on corpus).workers = pool.workers := rfl
      have hhalts : s.halts (pool.on corpus) = s.halts pool := rfl
      have hevaluator : (pool.on corpus).evaluator = pool.evaluator.on corpus := rfl
      unfold occur
      dsimp only
      rw [hworkers, hhalts, hevaluator]
      cases pool.workers[i]? with
      | none => rfl
      | some w =>
          dsimp only
          rw [Worker.turn_on setting _ _ halike, Pool.move_on]

theorem foldl_occur_on (s : Search) (setting : LineageSetting V) {e : Evaluator}
    (halike : e.ScoresAlike corpus) (schedule : List Event) {pool : Pool G}
    (hsound : pool.Sound e s.config.lineages) :
    schedule.foldl (s.occur setting) (pool.on corpus) =
      (schedule.foldl (s.occur setting) pool).on corpus := by
  induction schedule generalizing pool with
  | nil => rfl
  | cons event schedule ih =>
      have hpool : pool.evaluator.ScoresAlike corpus := by
        rw [hsound.evaluator]
        exact halike
      rw [List.foldl_cons, List.foldl_cons, occur_on s setting hpool,
        ih (occur_sound s setting hsound event)]

theorem answer?_reorders {s : Search} {a b : Problem} (h : a.Reorders b)
    (hmode : s.config.fitness.mode = .span) (seed : UInt64) (schedule : List Event) :
    (s.interleaved G b seed schedule).answer? = (s.interleaved G a seed schedule).answer? := by
  have halike := scoresAlike_evaluator h hmode
  have hpool : s.interleaved G b seed schedule =
      (s.interleaved G a seed schedule).on (Corpus.ofProblem b) := by
    have hstart : s.startPool G b seed = (s.startPool G a seed).on (Corpus.ofProblem b) := rfl
    unfold interleaved
    rw [hstart, ← h.alphabet, foldl_occur_on s _ halike schedule (startPool_sound s a seed)]
  have hevaluator := (interleaved_sound (G := G) s a seed schedule).evaluator
  have hconclude : conclude ((s.interleaved G a seed schedule).on (Corpus.ofProblem b)).ledger =
      conclude (s.interleaved G a seed schedule).ledger := by
    refine conclude_on (s.interleaved G a seed schedule).ledger ?_ ?_
    · unfold Pool.ledger
      rw [hevaluator]
      exact halike
    · unfold Pool.ledger
      rw [hevaluator]
      exact fun pattern => (Fitness.accuracy_reorders h.corpus s.config.fitness pattern).symm
  unfold Pool.answer?
  rw [hpool, hconclude]
  rfl

/-! ## Searches -/

/-- In whatever order the good and the bad texts are listed, every pattern classifies as many of them
correctly, in either mode.  In span mode a search from the same seed that is cancelled at the same
moment makes the same report and the same progress, and so does one whose lineages run side by side
on the same schedule. -/
theorem reordered_texts_sameReport (config : Config) (s : Search)
    (hconfig : ofConfig config = .ok s) (hseed : config.randomSeed.isSome = true)
    {a b : Problem} (h : a.Reorders b) :
    (∀ params pattern, Fitness.accuracy params (Corpus.ofProblem a) pattern =
      Fitness.accuracy params (Corpus.ofProblem b) pattern) ∧
    (config.fitness.mode = .span →
      (∀ entropy entropy' cancelAt,
        s.runUntil a entropy cancelAt = s.runUntil b entropy' cancelAt) ∧
      ∀ entropy entropy' schedule,
        s.runInterleaved a entropy schedule = s.runInterleaved b entropy' schedule) := by
  obtain ⟨rfl, -⟩ := ofConfig_eq_ok hconfig
  obtain ⟨seed, hseed⟩ := Option.isSome_iff_exists.mp hseed
  refine ⟨Fitness.accuracy_reorders h.corpus, fun hmode => ⟨?_, ?_⟩⟩
  · intro entropy entropy' cancelAt
    cases hrepresentation : s.config.representation with
    | sequence =>
        rw [runUntil_sequence hseed hrepresentation, runUntil_sequence hseed hrepresentation]
        exact (search_reorders h hmode seed cancelAt).symm
    | tree =>
        rw [runUntil_tree hseed hrepresentation, runUntil_tree hseed hrepresentation]
        exact (search_reorders h hmode seed cancelAt).symm
  · intro entropy entropy' schedule
    unfold runInterleaved
    rw [hseed]
    cases s.config.representation with
    | sequence => exact (answer?_reorders h hmode seed schedule).symm
    | tree => exact (answer?_reorders h hmode seed schedule).symm

/-- A text that is listed twice, and a search over syntax trees that is cancelled while its fourth
lineage runs. -/
theorem reversed_texts_sameReport :
    ∃ s, ofConfig { representation := .tree, policy := .drift, randomSeed := some 7 } = .ok s ∧
      s.runUntil ⟨["a", "\\d"], ["a1", "b", "a1"], ["", "é"]⟩ 0 (some ⟨3, 20⟩) =
        s.runUntil ⟨["a", "\\d"], ["a1", "a1", "b"], ["é", ""]⟩ 1 (some ⟨3, 20⟩) := by
  obtain ⟨s, hconfig⟩ := exists_ofConfig
    { representation := .tree, policy := .drift, randomSeed := some 7 } (by rfl)
  have hreorders : Problem.Reorders ⟨["a", "\\d"], ["a1", "b", "a1"], ["", "é"]⟩
      ⟨["a", "\\d"], ["a1", "a1", "b"], ["é", ""]⟩ :=
    ⟨rfl, .cons _ (.swap _ _ _), .swap _ _ _⟩
  obtain ⟨-, hsame⟩ := reordered_texts_sameReport _ s hconfig rfl hreorders
  exact ⟨s, hconfig, (hsame rfl).1 0 1 (some ⟨3, 20⟩)⟩

end Search

end RegexInference
