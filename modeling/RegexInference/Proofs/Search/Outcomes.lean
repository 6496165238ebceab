import RegexInference.Proofs.Search.Generations
import RegexInference.Proofs.Search.Winner

/-!
# The results of a search, lineage by lineage

Lineages share a counter and two signals: that the search is cancelled, and that a perfect pattern
was found.  The counter plays no part in the scores, and a signal is only asked for before a
generation.  So the results of a search are those of each lineage run on its own, except that the
lineages behind a perfect one may be held back before their first generation.  All else in the
ledger and in the report follows from the results.
-/

namespace RegexInference

variable {G V : Type} [Genotype G V]

/-! ## One lineage -/

namespace Lineage

variable {σ : Type} [Random.Source σ] (setting : LineageSetting V) (halt : ℕ → Bool)

/-- How often an evaluator was used before makes no difference to a lineage. -/
theorem runFor_evaluations (remaining asked : ℕ) (e : Evaluator) (l : Lineage σ G) (count : ℕ) :
    (l.runFor setting halt remaining asked { e with evaluations := count }).1 =
      (l.runFor setting halt remaining asked e).1 := by
  induction remaining generalizing asked e l count with
  | zero => rfl
  | succ remaining ih =>
      -- Both runs take the same generation; their evaluators differ by the count again.
      rw [runFor_succ, runFor_succ]
      by_cases hhalt : halt asked = true
      · rw [if_pos hhalt, if_pos hhalt]
      · rw [if_neg hhalt, if_neg hhalt]
        have hsame : l.step setting { e with evaluations := count } =
            ((l.step setting e).1, (l.step setting e).2.1,
              { e with evaluations := count + 1 }) := rfl
        rw [hsame]
        by_cases hperfect : (l.step setting e).1 = .perfect
        · rw [if_pos hperfect, if_pos hperfect]
        · rw [if_neg hperfect, if_neg hperfect, evaluator_step]
          have hleft := ih (asked + 1) e (l.step setting e).2.1 (count + 1)
          have hright := ih (asked + 1) e (l.step setting e).2.1 (e.evaluations + 1)
          exact hleft.trans hright.symm

theorem run_of_halt (budget : ℕ) (e : Evaluator) (l : Lineage σ G) (hhalt : halt 0 = true) :
    l.run setting budget halt e = (l, e) := by
  unfold run
  cases budget - l.generation with
  | zero => rfl
  | succ remaining => rw [runFor_succ, if_pos hhalt]

/-- A run takes its evaluator one score further for every generation, and nothing else is different
when the evaluator was used before. -/
theorem run_evaluations (budget : ℕ) (e : Evaluator) (source : σ) (count : ℕ) :
    let final := (new source : Lineage σ G).run setting budget halt e
    (new source : Lineage σ G).run setting budget halt { e with evaluations := count } =
      (final.1, { e with evaluations := count + final.1.generation }) := by
  intro final
  have hlineage : ((new source : Lineage σ G).run setting budget halt
      { e with evaluations := count }).1 = final.1 :=
    runFor_evaluations setting halt (budget - 0) 0 e (new source) count
  obtain ⟨n, hrun⟩ := exists_run_eq_stepped setting halt budget { e with evaluations := count }
    (new source : Lineage σ G)
  have hgeneration : final.1.generation = n := by
    rw [← hlineage, hrun, generation_stepped]
    exact Nat.zero_add n
  refine Prod.ext hlineage ?_
  rw [hrun, evaluator_stepped, hgeneration]

theorem consistent_run (hempty : Genotype.toPattern (Genotype.empty : G) = "") (budget : ℕ)
    (e : Evaluator) (source : σ) :
    ((new source : Lineage σ G).run setting budget halt e).1.Consistent e.params e.corpus := by
  obtain ⟨n, hrun⟩ := exists_run_eq_stepped setting halt budget e (new source : Lineage σ G)
  rw [hrun]
  exact consistent_stepped setting e n (consistent_new hempty source)

end Lineage

/-! ## Lists of results -/

namespace LineageOutcome

/-- The result of a lineage that takes no generation. -/
def idle : LineageOutcome G :=
  { best := Genotype.empty, fitness := -Fitness.infinity, generations := 0, perfect := false }

/-- The flag says whether the fitness is that of a perfect classifier. -/
def Marked (r : LineageOutcome G) : Prop := r.perfect = true ↔ r.fitness = Fitness.infinity

def totalGenerations (results : List (LineageOutcome G)) : ℕ := (results.map generations).sum

/-- Some results when the lineages behind a perfect one are held back, if they are to `stop` there;
`solved` says that one was perfect before. -/
def heldBack (stop : Bool) : (solved : Bool) → List (LineageOutcome G) → List (LineageOutcome G)
  | _, [] => []
  | solved, r :: results =>
    let shown := if stop && solved then idle else r
    shown :: heldBack stop (solved || shown.perfect) results

theorem length_heldBack (stop solved : Bool) (results : List (LineageOutcome G)) :
    (heldBack stop solved results).length = results.length := by
  induction results generalizing solved with
  | nil => rfl
  | cons r results ih => simp [heldBack, ih]

theorem heldBack_false (solved : Bool) (results : List (LineageOutcome G)) :
    heldBack false solved results = results := by
  induction results generalizing solved with
  | nil => rfl
  | cons r results ih => simp [heldBack, ih]

end LineageOutcome

/-! ## All lineages -/

namespace Search

open LineageOutcome

/-- What comes of the lineage of a seed that has `ended` lineages before it, on its own. -/
def outcomeAt (s : Search) (setting : LineageSetting V) (e : Evaluator)
    (cancelAt : Option Moment) (ended : ℕ) (seed : UInt64) : LineageOutcome G :=
  ((Lineage.new (Random.Stream.ofSeed seed) : Lineage Random.Stream G).run setting
    s.config.generationsPerLineage (Moment.hasCome cancelAt ended) e).1.outcome

def evaluator (s : Search) (problem : Problem) : Evaluator :=
  { params := s.config.fitness, corpus := Corpus.ofProblem problem }

/-- What comes of each lineage of a search on its own. -/
def outcomesAlone (G : Type) {V : Type} [Genotype G V] (s : Search) (problem : Problem)
    (seed : UInt64) (cancelAt : Option Moment) : List (LineageOutcome G) :=
  (seeds s.config.lineages (Random.Stream.ofSeed seed)).mapIdx
    (s.outcomeAt (s.context (G := G) (Alphabet.ofTokens problem.alphabet)) (s.evaluator problem)
      cancelAt)

/-- The ledger of lineages with these results. -/
def Ledger.ofResults (e : Evaluator) (cancelled : Bool) (results : List (LineageOutcome G)) :
    Ledger G where
  evaluator := { e with evaluations := e.evaluations + totalGenerations results }
  solved := results.any LineageOutcome.perfect
  cancelled
  results := results.reverse

theorem marked_outcomeAt (hempty : Genotype.toPattern (Genotype.empty : G) = "") (s : Search)
    (setting : LineageSetting V) (e : Evaluator) (cancelAt : Option Moment) (ended : ℕ)
    (seed : UInt64) :
    (s.outcomeAt setting e cancelAt ended seed : LineageOutcome G).Marked :=
  (Lineage.consistent_run setting (Moment.hasCome cancelAt ended) hempty
    s.config.generationsPerLineage e (Random.Stream.ofSeed seed)).perfect_iff

theorem outcomeAt_of_hasCome (s : Search) (setting : LineageSetting V) (e : Evaluator)
    {cancelAt : Option Moment} {ended : ℕ} (hcome : Moment.hasCome cancelAt ended 0 = true)
    (seed : UInt64) : (s.outcomeAt setting e cancelAt ended seed : LineageOutcome G) = idle := by
  unfold outcomeAt
  rw [Lineage.run_of_halt _ _ _ _ _ hcome]
  rfl

/-- One lineage more adds its result, which is that of the lineage on its own unless it is held
back. -/
theorem runLineage_ofResults (s : Search) (setting : LineageSetting V)
    (cancelAt : Option Moment) (e : Evaluator) (cancelled : Bool)
    (results : List (LineageOutcome G)) (seed : UInt64) :
    s.runLineage setting cancelAt (Ledger.ofResults e cancelled results) seed =
      Ledger.ofResults e (Moment.hasCome cancelAt (results.length + 1) 0)
        (results ++ [if s.config.stopOnPerfect && results.any LineageOutcome.perfect then idle
          else s.outcomeAt setting e cancelAt results.length seed]) := by
  let held := s.config.stopOnPerfect && results.any LineageOutcome.perfect
  let final := (Lineage.new (Random.Stream.ofSeed seed) : Lineage Random.Stream G).run setting
    s.config.generationsPerLineage
    (fun asked => Moment.hasCome cancelAt results.reverse.length asked || held)
    { e with evaluations := e.evaluations + totalGenerations results }
  have hledger : s.runLineage setting cancelAt (Ledger.ofResults e cancelled results) seed =
      { evaluator := final.2
        solved := results.any LineageOutcome.perfect || final.1.outcome.perfect
        cancelled := Moment.hasCome cancelAt (results.reverse.length + 1) 0
        results := final.1.outcome :: results.reverse } := rfl
  -- A lineage that is held back stops at once; any other is asked what it is asked on its own.
  have hfinal : final.1.outcome = (if held then idle
        else s.outcomeAt setting e cancelAt results.length seed) ∧
      final.2 = { e with
        evaluations := e.evaluations + totalGenerations results + final.1.generation } := by
    by_cases hheld : held = true
    · have hidle : final = (Lineage.new (Random.Stream.ofSeed seed),
          { e with evaluations := e.evaluations + totalGenerations results }) :=
        Lineage.run_of_halt _ _ _ _ _ (by simp [hheld])
      rw [hidle, if_pos hheld]
      exact ⟨rfl, rfl⟩
    · have halone : final = (Lineage.new (Random.Stream.ofSeed seed) : Lineage Random.Stream G).run
          setting s.config.generationsPerLineage (Moment.hasCome cancelAt results.length)
          { e with evaluations := e.evaluations + totalGenerations results } := by
        simp [final, hheld]
      rw [halone, Lineage.run_evaluations, if_neg hheld]
      exact ⟨rfl, rfl⟩
  have hgenerations : final.1.generation = final.1.outcome.generations := rfl
  rw [hledger, hfinal.2, hgenerations, hfinal.1]
  simp [Ledger.ofResults, totalGenerations, held, Nat.add_assoc]

theorem foldl_runLineage_ofResults (s : Search) (setting : LineageSetting V)
    (cancelAt : Option Moment) (e : Evaluator) (seeds : List UInt64)
    (results : List (LineageOutcome G)) :
    seeds.foldl (s.runLineage setting cancelAt)
        (Ledger.ofResults e (Moment.hasCome cancelAt results.length 0) results) =
      Ledger.ofResults e (Moment.hasCome cancelAt (results.length + seeds.length) 0)
        (results ++ heldBack s.config.stopOnPerfect (results.any LineageOutcome.perfect)
          (seeds.mapIdx fun i => s.outcomeAt setting e cancelAt (results.length + i))) := by
  -- The ledger is known from its results, so these stay general along the fold.
  induction seeds generalizing results with
  | nil => simp [heldBack]
  | cons seed seeds ih =>
      have hlater : ∀ i, results.length + 1 + i = results.length + (i + 1) := by
        intro i
        omega
      have hrest := ih (results ++ [if s.config.stopOnPerfect && results.any LineageOutcome.perfect
        then idle else s.outcomeAt setting e cancelAt results.length seed])
      simp only [List.length_append, List.length_singleton, List.any_append, List.any_cons,
        List.any_nil, Bool.or_false, List.append_assoc, hlater] at hrest
      rw [List.foldl_cons, runLineage_ofResults, hrest, List.length_cons, Nat.add_comm seeds.length]
      simp [List.mapIdx_cons, heldBack]

/-- The results of a search are those of its lineages, each on its own, but for those held back. -/
theorem runLineages_eq_ofResults (s : Search) (problem : Problem) (seed : UInt64)
    (cancelAt : Option Moment) :
    (s.runLineages problem seed cancelAt : Ledger G) =
      Ledger.ofResults (s.evaluator problem) (Moment.hasCome cancelAt s.config.lineages 0)
        (heldBack s.config.stopOnPerfect false (s.outcomesAlone G problem seed cancelAt)) := by
  have hfold := foldl_runLineage_ofResults (G := G) s
    (s.context (G := G) (Alphabet.ofTokens problem.alphabet)) cancelAt (s.evaluator problem)
    (seeds s.config.lineages (Random.Stream.ofSeed seed)) []
  simp only [List.length_nil, Nat.zero_add, length_seeds, List.nil_append, List.any_nil] at hfold
  exact hfold

theorem outcomes_eq_heldBack (s : Search) (problem : Problem) (seed : UInt64)
    (cancelAt : Option Moment) :
    s.outcomes G problem seed cancelAt =
      heldBack s.config.stopOnPerfect false (s.outcomesAlone G problem seed cancelAt) := by
  unfold outcomes
  rw [runLineages_eq_ofResults]
  exact List.reverse_reverse _

/-! ## The report -/

/-- What a search with these results reports. -/
theorem conclude_ofResults (e : Evaluator) (cancelled : Bool) (results : List (LineageOutcome G)) :
    conclude (Ledger.ofResults e cancelled results) =
      let pattern := Genotype.toPattern (winner results)
      let fitnessScore := Fitness.score e.params e.corpus pattern
      { pattern
        fitnessScore
        accuracy := Fitness.accuracy e.params e.corpus pattern
        stats :=
          { lineages := results.length
            generations := totalGenerations results
            evaluations := e.evaluations + totalGenerations results + 1
            perfect := Fitness.isPerfect fitnessScore
            stopReason :=
              if cancelled then .cancelled
              else if results.any LineageOutcome.perfect then .perfectMatch
              else .completed
            elapsedSeconds := 0.0 } } := by
  unfold conclude Ledger.ofResults
  simp only [List.reverse_reverse, totalGenerations, List.sum_eq_foldl]
  rfl

end Search

end RegexInference
