import RegexInference.Proofs.Search.Record
import RegexInference.Proofs.Validation

/-!
# The winner of a search

The results of the lineages are folded from the first to the last, and only a strictly better one
takes over.  What remains is the first of the best results, unless none is above minus infinity.
The winner's pattern is then scored once more; by the records of the lineages this gives the
winner's fitness again.
-/

namespace RegexInference

variable {G V : Type}

/-- A result is the first of the best among some. -/
def FirstBest (results : List (LineageOutcome G)) (r : LineageOutcome G) : Prop :=
  ∃ before after, results = before ++ r :: after ∧
    (∀ q ∈ before, q.fitness < r.fitness) ∧ ∀ q ∈ after, q.fitness ≤ r.fitness

namespace FirstBest

variable {results : List (LineageOutcome G)} {r : LineageOutcome G}

theorem mem (hfirst : FirstBest results r) : r ∈ results := by
  obtain ⟨before, after, rfl, -, -⟩ := hfirst
  simp

theorem le (hfirst : FirstBest results r) (hnan : r.fitness.isNaN = false) :
    ∀ q ∈ results, q.fitness ≤ r.fitness := by
  obtain ⟨before, after, rfl, hbefore, hafter⟩ := hfirst
  intro q hq
  rcases List.mem_append.mp hq with hq | hq
  · exact Binary64.le_of_lt (hbefore q hq)
  · rcases List.mem_cons.mp hq with rfl | hq
    · exact Binary64.le_refl hnan
    · exact hafter q hq

theorem cons {q : LineageOutcome G} (hfirst : FirstBest results r) (hlt : q.fitness < r.fitness) :
    FirstBest (q :: results) r := by
  obtain ⟨before, after, rfl, hbefore, hafter⟩ := hfirst
  exact ⟨q :: before, after, rfl, List.forall_mem_cons.mpr ⟨hlt, hbefore⟩, hafter⟩

end FirstBest

namespace LineageOutcome

/-- The better of the best so far and a result; of equals the best so far. -/
def better (best : G × Float) (r : LineageOutcome G) : G × Float :=
  if r.fitness > best.2 then (r.best, r.fitness) else best

theorem foldl_better_eq_self (results : List (LineageOutcome G)) (best : G × Float)
    (hskip : ∀ r ∈ results, ¬ best.2 < r.fitness) : results.foldl better best = best := by
  induction results with
  | nil => rfl
  | cons r results ih =>
      obtain ⟨hr, hresults⟩ := List.forall_mem_cons.mp hskip
      have hkeep : better best r = best := if_neg hr
      rw [List.foldl_cons, hkeep, ih hresults]

/-- The fold keeps what it starts with when nothing beats that, and otherwise comes to the first of
the best results. -/
theorem foldl_better (results : List (LineageOutcome G)) (best : G × Float)
    (hresults : ∀ r ∈ results, r.fitness.isNaN = false) (hbest : best.2.isNaN = false) :
    (results.foldl better best = best ∧ ∀ r ∈ results, r.fitness ≤ best.2) ∨
      ∃ r, FirstBest results r ∧ best.2 < r.fitness ∧
        results.foldl better best = (r.best, r.fitness) := by
  induction results generalizing best with
  | nil => exact Or.inl ⟨rfl, fun r hr => absurd hr List.not_mem_nil⟩
  | cons q results ih =>
      obtain ⟨hq, hresults⟩ := List.forall_mem_cons.mp hresults
      rw [List.foldl_cons]
      unfold better
      by_cases hlt : q.fitness > best.2
      · rw [if_pos hlt]
        right
        rcases ih (q.best, q.fitness) hresults hq with ⟨hkeep, hle⟩ | ⟨r, hfirst, hr, hfold⟩
        · refine ⟨q, ⟨[], results, rfl, ?_, hle⟩, hlt, hkeep⟩
          exact fun r hr => absurd hr List.not_mem_nil
        · exact ⟨r, hfirst.cons hr, Binary64.lt_trans hlt hr, hfold⟩
      · rw [if_neg hlt]
        have hqle : q.fitness ≤ best.2 := Binary64.le_of_not_lt hbest hq hlt
        rcases ih best hresults hbest with ⟨hkeep, hle⟩ | ⟨r, hfirst, hr, hfold⟩
        · exact Or.inl ⟨hkeep, List.forall_mem_cons.mpr ⟨hqle, hle⟩⟩
        · right
          exact ⟨r, hfirst.cons (Binary64.lt_of_le_of_lt hq hqle hr), hr, hfold⟩

theorem winner_eq_foldl [Genotype G V] (results : List (LineageOutcome G)) :
    winner results = (results.foldl better (Genotype.empty, -Fitness.infinity)).1 := rfl

end LineageOutcome

namespace Search

variable [Genotype G V]

/-- The results of the lineages, in the order of their seeds. -/
def outcomes (G : Type) {V : Type} [Genotype G V] (s : Search) (problem : Problem)
    (seed : UInt64) (cancelAt : Option Moment) : List (LineageOutcome G) :=
  (s.runLineages problem seed cancelAt : Ledger G).results.reverse

theorem length_outcomes (s : Search) (problem : Problem) (seed : UInt64)
    (cancelAt : Option Moment) :
    (s.outcomes G problem seed cancelAt).length = s.config.lineages := by
  unfold outcomes
  rw [List.length_reverse, length_runLineages]

/-- The answer is the first of the best results: its fitness to the bit, and its candidate written
as a pattern.  When no result is above minus infinity, the answer is the empty pattern. -/
structure AnswersFirstBest (results : List (LineageOutcome G)) (report : SearchReport)
    (progress : List Progress) : Prop where
  reported : progress.map Progress.bestFitness = results.map LineageOutcome.fitness
  winner :
    (∃ r, FirstBest results r ∧ -Fitness.infinity < r.fitness ∧
      report.fitnessScore = r.fitness ∧ report.pattern = Genotype.toPattern r.best) ∨
    ((∀ r ∈ results, r.fitness = -Fitness.infinity) ∧
      report.fitnessScore = -Fitness.infinity ∧ report.pattern = "" ∧ report.accuracy = 0)
  attained : report.fitnessScore ∈ progress.map Progress.bestFitness
  greatest : ∀ p ∈ progress, p.bestFitness ≤ report.fitnessScore

theorem map_bestFitness_reports (total : ℕ) (ledger : Ledger G) :
    (reports total ledger).map Progress.bestFitness =
      ledger.results.reverse.map LineageOutcome.fitness := by
  unfold reports
  apply List.ext_getElem
  · simp
  · intro i hi hi'
    simp

theorem score_empty (params : FitnessParams) (corpus : Corpus) :
    Fitness.score params corpus "" = -Fitness.infinity := rfl

theorem accuracy_empty (params : FitnessParams) (corpus : Corpus) :
    Fitness.accuracy params corpus "" = 0 := by
  unfold Fitness.accuracy
  split_ifs
  · rfl
  · rfl

theorem fitnessScore_conclude (ledger : Ledger G) :
    (conclude ledger).fitnessScore =
      Fitness.score ledger.evaluator.params ledger.evaluator.corpus (conclude ledger).pattern := rfl

theorem accuracy_conclude (ledger : Ledger G) :
    (conclude ledger).accuracy =
      Fitness.accuracy ledger.evaluator.params ledger.evaluator.corpus
        (conclude ledger).pattern := rfl

theorem pattern_conclude (ledger : Ledger G) :
    (conclude ledger).pattern =
      Genotype.toPattern (LineageOutcome.winner ledger.results.reverse) := rfl

/-- A bound on the results is one on what was reported of them. -/
theorem bestFitness_le_of_mem_reports {total : ℕ} {ledger : Ledger G} {bound : Float}
    (hle : ∀ r ∈ ledger.results.reverse, r.fitness ≤ bound) :
    ∀ p ∈ reports total ledger, p.bestFitness ≤ bound := by
  intro p hp
  have hmem := List.mem_map_of_mem (f := Progress.bestFitness) hp
  rw [map_bestFitness_reports] at hmem
  obtain ⟨r, hr, hfitness⟩ := List.mem_map.mp hmem
  exact hfitness ▸ hle r hr

/-- A search whose results are sound records answers with the first of the best. -/
theorem conclude_answersFirstBest {params : FitnessParams} {corpus : Corpus}
    (hempty : Genotype.toPattern (Genotype.empty : G) = "") (total : ℕ) (ledger : Ledger G)
    (hsound : ledger.Sound params corpus) (hfull : ledger.results ≠ []) :
    AnswersFirstBest ledger.results.reverse (conclude ledger) (reports total ledger) := by
  have hreported := map_bestFitness_reports total ledger
  have hrecorded : ∀ r ∈ ledger.results.reverse, Recorded params corpus r.best r.fitness :=
    fun r hr => hsound.recorded r (List.mem_reverse.mp hr)
  have hfold := LineageOutcome.foldl_better ledger.results.reverse
    ((Genotype.empty : G), -Fitness.infinity) (fun r hr => (hrecorded r hr).isNaN_eq_false)
    Binary64.isNaN_neg_infinity
  rcases hfold with ⟨hkeep, hle⟩ | ⟨r, hfirst, hlt, hwinner⟩
  · have hpattern : (conclude ledger).pattern = "" := by
      rw [pattern_conclude, LineageOutcome.winner_eq_foldl, hkeep, hempty]
    have hfitness : (conclude ledger).fitnessScore = -Fitness.infinity := by
      rw [fitnessScore_conclude, hpattern, score_empty]
    have haccuracy : (conclude ledger).accuracy = 0 := by
      rw [accuracy_conclude, hpattern, accuracy_empty]
    have hall : ∀ r ∈ ledger.results.reverse, r.fitness = -Fitness.infinity :=
      fun r hr => (hrecorded r hr).eq_neg_infinity_of_le (hle r hr)
    refine ⟨hreported, Or.inr ⟨hall, hfitness, hpattern, haccuracy⟩, ?_, ?_⟩
    · rw [hreported, hfitness]
      obtain ⟨r, hr⟩ := List.exists_mem_of_ne_nil _ (mt List.reverse_eq_nil_iff.mp hfull)
      exact List.mem_map.mpr ⟨r, hr, hall r hr⟩
    · rw [hfitness]
      exact bestFitness_le_of_mem_reports hle
  · have hr := hrecorded r hfirst.mem
    have hpattern : (conclude ledger).pattern = Genotype.toPattern r.best := by
      rw [pattern_conclude, LineageOutcome.winner_eq_foldl, hwinner]
    have hfitness : (conclude ledger).fitnessScore = r.fitness := by
      rw [fitnessScore_conclude, hpattern, hsound.params_eq, hsound.corpus_eq, ← hr.score_eq hlt]
    refine ⟨hreported, Or.inl ⟨r, hfirst, hlt, hfitness, hpattern⟩, ?_, ?_⟩
    · rw [hreported, hfitness]
      exact List.mem_map_of_mem hfirst.mem
    · rw [hfitness]
      exact bestFitness_le_of_mem_reports (hfirst.le hr.isNaN_eq_false)

theorem search_answersFirstBest (hempty : Genotype.toPattern (Genotype.empty : G) = "")
    (s : Search) (hlineages : s.config.lineages ≠ 0) (problem : Problem) (seed : UInt64)
    (cancelAt : Option Moment) :
    AnswersFirstBest (s.outcomes G problem seed cancelAt)
      (s.search G problem seed cancelAt).1 (s.search G problem seed cancelAt).2 := by
  apply conclude_answersFirstBest hempty _ _ (runLineages_sound s problem seed cancelAt)
  rw [← List.length_pos_iff_ne_nil, length_runLineages]
  omega

/-- A search is set up for every valid configuration whose weights make a wheel and whose range of
mutations is not empty. -/
theorem ofConfig_eq_ok_iff {config : Config} {s : Search} :
    ofConfig config = .ok s ↔
      config.validate = .ok () ∧
        SetupError.operators config.mutationWeights = .ok s.operators ∧
        MutationRange.ofPair? config.mutationsPerGeneration = some s.mutations ∧
        s.config = config := by
  unfold ofConfig
  cases hvalid : config.validate with
  | error e => simp [bind, Except.bind, Except.mapError]
  | ok valid =>
      cases hoperators : SetupError.operators config.mutationWeights with
      | error e => simp [bind, Except.bind, Except.mapError]
      | ok operators =>
          cases hrange : MutationRange.ofPair? config.mutationsPerGeneration with
          | none => simp [bind, Except.bind, Except.mapError, throw, throwThe, MonadExceptOf.throw]
          | some mutations =>
              constructor
              · intro hset
                cases hset
                exact ⟨rfl, rfl, rfl, rfl⟩
              · rintro ⟨-, hoperators, hrange, hconfig⟩
                obtain ⟨found, operators, mutations⟩ := s
                cases hoperators
                cases hrange
                cases hconfig
                rfl

theorem exists_ofConfig (config : Config) (haccepted : (ofConfig config).isOk = true) :
    ∃ s, ofConfig config = .ok s := by
  cases hconfig : ofConfig config with
  | error e =>
      rw [hconfig] at haccepted
      cases haccepted
  | ok s => exact ⟨s, rfl⟩

theorem lineages_ne_zero {config : Config} (hvalid : config.validate = .ok ()) :
    config.lineages ≠ 0 :=
  (Config.validate_eq_ok_iff.mp hvalid).lineages

/-- A search is set up for the configuration it is given, which asks for a lineage at least. -/
theorem ofConfig_eq_ok {config : Config} {s : Search} (hconfig : ofConfig config = .ok s) :
    s.config = config ∧ config.lineages ≠ 0 := by
  obtain ⟨hvalid, -, -, hsame⟩ := ofConfig_eq_ok_iff.mp hconfig
  exact ⟨hsame, lineages_ne_zero hvalid⟩

/-- Whatever the seed and whenever it is cancelled, a search answers with the first of the best
results of all its lineages. -/
theorem runUntil_answersFirstBest (config : Config) (s : Search)
    (hconfig : ofConfig config = .ok s) (problem : Problem) (entropy : UInt64)
    (cancelAt : Option Moment) :
    let seed := config.randomSeed.getD entropy
    let answer := s.runUntil problem entropy cancelAt
    match config.representation with
    | .sequence =>
      (s.outcomes Sequence problem seed cancelAt).length = config.lineages ∧
        AnswersFirstBest (s.outcomes Sequence problem seed cancelAt) answer.1 answer.2
    | .tree =>
      (s.outcomes SyntaxTree problem seed cancelAt).length = config.lineages ∧
        AnswersFirstBest (s.outcomes SyntaxTree problem seed cancelAt) answer.1 answer.2 := by
  obtain ⟨rfl, hlineages⟩ := ofConfig_eq_ok hconfig
  intro seed answer
  unfold answer runUntil
  cases s.config.representation with
  | sequence =>
      exact ⟨length_outcomes s problem seed cancelAt,
        search_answersFirstBest rfl s hlineages problem seed cancelAt⟩
  | tree =>
      exact ⟨length_outcomes s problem seed cancelAt,
        search_answersFirstBest rfl s hlineages problem seed cancelAt⟩

/-- Drifting searches over syntax trees are set up, and one that is cancelled in the middle of its
fourth lineage answers like any other. -/
theorem cancelled_drift_answersFirstBest :
    ∃ s, ofConfig { representation := .tree, policy := .drift } = .ok s ∧
      (s.outcomes SyntaxTree Problem.example 7 (some ⟨3, 20⟩)).length = 100 ∧
        AnswersFirstBest (s.outcomes SyntaxTree Problem.example 7 (some ⟨3, 20⟩))
          (s.runUntil Problem.example 7 (some ⟨3, 20⟩)).1
          (s.runUntil Problem.example 7 (some ⟨3, 20⟩)).2 := by
  have haccepted : (ofConfig { representation := .tree, policy := .drift }).isOk = true := by
    rfl
  cases hconfig : ofConfig { representation := .tree, policy := .drift } with
  | error e =>
      rw [hconfig] at haccepted
      cases haccepted
  | ok s => exact ⟨s, rfl, runUntil_answersFirstBest _ s hconfig Problem.example 7 (some ⟨3, 20⟩)⟩

end Search

end RegexInference
