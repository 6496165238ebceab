import RegexInference.Proofs.Search.Stopping

/-!
# What a search makes of its budget

A lineage ends when its budget is used up, unless it is told to stop or a trial is perfect.  With a
larger budget it goes on from where it ended, and its record never gets worse; and with more
lineages the first ones keep their seeds.  The score of a search is the best that its lineages come
to, each on its own, also when those behind a perfect one are held back.  So a larger budget never
leads to a lower score.
-/

namespace RegexInference

/-! ## One lineage -/

namespace Lineage

variable {σ G V : Type} [Genotype G V] [Random.Source σ] {l : Lineage σ G}

section

variable (setting : LineageSetting V) (halt : ℕ → Bool)

theorem generation_run_le (budget : ℕ) (e : Evaluator) (source : σ) :
    ((new source : Lineage σ G).run setting budget halt e).1.generation ≤ budget := by
  obtain ⟨n, hrun, hends⟩ := exists_endsBehind setting halt budget 0 e (new source : Lineage σ G)
  have hfinal : (new source : Lineage σ G).run setting budget halt e =
      (new source).stepped setting e n := hrun
  rw [hfinal, generation_stepped]
  exact (Nat.zero_add n).trans_le hends.le

/-- A lineage that is never told to stop uses up its budget, unless it ends perfect. -/
theorem generation_run_eq (hnever : ∀ asked, halt asked = false) (budget : ℕ) (e : Evaluator)
    (source : σ)
    (hplain : ((new source : Lineage σ G).run setting budget halt e).1.perfect = false) :
    ((new source : Lineage σ G).run setting budget halt e).1.generation = budget := by
  obtain ⟨n, hrun, hends⟩ := exists_endsBehind setting halt budget 0 e (new source : Lineage σ G)
  have hfinal : (new source : Lineage σ G).run setting budget halt e =
      (new source).stepped setting e n := hrun
  rw [hfinal] at hplain ⊢
  rw [generation_stepped]
  rcases hends.reason with hall | hhalt | ⟨i, rfl, hperfect⟩
  · exact (Nat.zero_add n).trans hall
  · rw [hnever] at hhalt
    cases hhalt
  · rw [stepped, (step_accepts setting _ _).flag_iff.mpr (Or.inr hperfect)] at hplain
    cases hplain

/-- A run with a larger budget goes on from where the one with the smaller budget ends. -/
theorem exists_runFor_add (remaining more asked : ℕ) (e : Evaluator) (l : Lineage σ G) :
    let reached := l.runFor setting halt remaining asked e
    ∃ n, l.runFor setting halt (remaining + more) asked e =
      reached.1.stepped setting reached.2 n := by
  induction remaining generalizing asked e l with
  | zero =>
      rw [Nat.zero_add]
      exact exists_runFor_eq_stepped setting halt more asked e l
  | succ remaining ih =>
      intro reached
      have hreached : reached = l.runFor setting halt (remaining + 1) asked e := rfl
      rw [Nat.add_right_comm, runFor_succ]
      rw [runFor_succ] at hreached
      by_cases hhalt : halt asked = true
      · rw [if_pos hhalt] at hreached ⊢
        exact ⟨0, hreached.symm⟩
      · rw [if_neg hhalt] at hreached ⊢
        by_cases hperfect : (l.step setting e).1 = .perfect
        · rw [if_pos hperfect] at hreached ⊢
          exact ⟨0, hreached.symm⟩
        · rw [if_neg hperfect] at hreached ⊢
          rw [hreached]
          exact ih (asked + 1) (l.step setting e).2.2 (l.step setting e).2.1

end

/-- The record never gets worse, however many generations are added. -/
theorem bestFitness_le_stepped (setting : LineageSetting V) (e : Evaluator) (n : ℕ)
    (hl : l.Consistent e.params e.corpus) :
    l.bestFitness ≤ (l.stepped setting e n).1.bestFitness := by
  have hstepped := stepped_induction
    (P := fun now : Lineage σ G =>
      now.Consistent e.params e.corpus ∧ l.bestFitness ≤ now.bestFitness)
    setting e n (fun haccepts ⟨hnow, hle⟩ => by
      have hnext := haccepts.consistent rfl hnow
      exact ⟨hnext, Binary64.le_trans hl.isNumber hnow.isNumber hnext.isNumber hle
        (haccepts.advances hnow).le⟩)
    ⟨hl, Binary64.le_refl hl.isNumber⟩
  exact hstepped.2

theorem bestFitness_run_le (hempty : Genotype.toPattern (Genotype.empty : G) = "")
    (setting : LineageSetting V) (halt : ℕ → Bool) {budget budget' : ℕ}
    (hbudget : budget ≤ budget') (e : Evaluator) (source : σ) :
    ((new source : Lineage σ G).run setting budget halt e).1.bestFitness ≤
      ((new source : Lineage σ G).run setting budget' halt e).1.bestFitness := by
  let reached := (new source : Lineage σ G).run setting budget halt e
  obtain ⟨n, hrun⟩ := exists_runFor_add setting halt budget (budget' - budget) 0 e
    (new source : Lineage σ G)
  rw [Nat.add_sub_cancel' hbudget] at hrun
  have hlarger : (new source : Lineage σ G).run setting budget' halt e =
      reached.1.stepped setting reached.2 n := hrun
  obtain ⟨k, hreached⟩ := exists_run_eq_stepped setting halt budget e (new source : Lineage σ G)
  have hevaluator : reached.2 = { e with evaluations := e.evaluations + k } := by
    rw [← evaluator_stepped setting e (new source : Lineage σ G) k, ← hreached]
  have hconsistent : reached.1.Consistent reached.2.params reached.2.corpus := by
    rw [hevaluator]
    exact consistent_run setting halt hempty budget e source
  rw [hlarger]
  exact bestFitness_le_stepped setting reached.2 n hconsistent

end Lineage

/-! ## The lineages of a search -/

namespace Search

open LineageOutcome

variable {G V : Type} [Genotype G V]

theorem isNaN_outcomesAlone (hempty : Genotype.toPattern (Genotype.empty : G) = "") (s : Search)
    (problem : Problem) (seed : UInt64) (cancelAt : Option Moment) :
    ∀ r ∈ s.outcomesAlone G problem seed cancelAt, r.fitness.isNaN = false := by
  intro r hr
  obtain ⟨i, hi, rfl⟩ := List.mem_mapIdx.mp hr
  exact (Lineage.consistent_run _ _ hempty s.config.generationsPerLineage _ _).isNumber

/-- Whether lineages behind a perfect one are held back makes no difference to the answer. -/
theorem sameAnswer_withStop (hempty : Genotype.toPattern (Genotype.empty : G) = "") (s : Search)
    (stop : Bool) (problem : Problem) (seed : UInt64) (cancelAt : Option Moment) :
    (s.search G problem seed cancelAt).1.SameAnswer
      ((s.withStop stop).search G problem seed cancelAt).1 := by
  have hmarked := marked_outcomesAlone hempty s problem seed cancelAt
  rw [search_eq_conclude, search_eq_conclude]
  apply sameAnswer_conclude
  rw [winner_heldBack _ _ hmarked]
  exact (winner_heldBack stop _ hmarked).symm

/-- A score is the best of some results. -/
structure IsBest (results : List (LineageOutcome G)) (score : Float) : Prop where
  attained : ∃ r ∈ results, r.fitness = score
  greatest : ∀ r ∈ results, r.fitness ≤ score

/-- The score of a search is the best that its lineages come to, each on its own. -/
theorem fitnessScore_isBest (hempty : Genotype.toPattern (Genotype.empty : G) = "") (s : Search)
    (hlineages : s.config.lineages ≠ 0) (problem : Problem) (seed : UInt64)
    (cancelAt : Option Moment) :
    IsBest (s.outcomesAlone G problem seed cancelAt)
      (s.search G problem seed cancelAt).1.fitnessScore := by
  let patient := s.withStop false
  have hanswers := search_answersFirstBest hempty patient hlineages problem seed cancelAt
  have houtcomes : patient.outcomes G problem seed cancelAt =
      s.outcomesAlone G problem seed cancelAt :=
    (outcomes_eq_heldBack patient problem seed cancelAt).trans (heldBack_false false _)
  have hreported := hanswers.reported
  rw [houtcomes] at hreported
  rw [(sameAnswer_withStop hempty s false problem seed cancelAt).fitnessScore]
  constructor
  · have hmem := hanswers.attained
    rw [hreported] at hmem
    exact List.mem_map.mp hmem
  · intro r hr
    have hmem := List.mem_map_of_mem (f := LineageOutcome.fitness) hr
    rw [← hreported] at hmem
    obtain ⟨p, hp, hfitness⟩ := List.mem_map.mp hmem
    exact hfitness ▸ hanswers.greatest p hp

/-! ## Larger budgets -/

def withBudget (s : Search) (lineages generations : ℕ) : Search :=
  { s with config := { s.config with lineages, generationsPerLineage := generations } }

theorem generationsPerLineage_ne_zero {config : Config} (hvalid : config.validate = .ok ()) :
    config.generationsPerLineage ≠ 0 :=
  (Config.validate_eq_ok_iff.mp hvalid).generations

theorem ofConfig_withBudget {config : Config} {s : Search} (hconfig : ofConfig config = .ok s)
    {lineages generations : ℕ} (hlineages : lineages ≠ 0) (hgenerations : generations ≠ 0) :
    ofConfig { config with lineages, generationsPerLineage := generations } =
      .ok (s.withBudget lineages generations) := by
  obtain ⟨hvalid, hoperators, hrange, rfl⟩ := ofConfig_eq_ok_iff.mp hconfig
  have hsettings := Config.validate_eq_ok_iff.mp hvalid
  have hvalid' := Config.validate_eq_ok_iff.mpr
    ((hsettings.withLineages hlineages).withGenerations hgenerations)
  exact ofConfig_eq_ok_iff.mpr ⟨hvalid', hoperators, hrange, rfl⟩

/-- Whatever a lineage comes to on its own, the lineage of the same seed comes to no less with a
larger budget. -/
theorem exists_outcomesAlone_withBudget (hempty : Genotype.toPattern (Genotype.empty : G) = "")
    (s : Search) {lineages generations : ℕ} (hlineages : s.config.lineages ≤ lineages)
    (hgenerations : s.config.generationsPerLineage ≤ generations) (problem : Problem)
    (seed : UInt64) :
    ∀ r ∈ s.outcomesAlone G problem seed none,
      ∃ r' ∈ (s.withBudget lineages generations).outcomesAlone G problem seed none,
        r.fitness ≤ r'.fitness := by
  intro r hr
  obtain ⟨i, hi, rfl⟩ := List.mem_mapIdx.mp hr
  obtain ⟨rest, hseeds, -⟩ := exists_seeds_add s.config.lineages (lineages - s.config.lineages)
    (Random.Stream.ofSeed seed)
  rw [Nat.add_sub_cancel' hlineages] at hseeds
  let larger := s.withBudget lineages generations
  let setting := larger.context (G := G) (Alphabet.ofTokens problem.alphabet)
  have hlarger : larger.outcomesAlone G problem seed none =
      (seeds lineages (Random.Stream.ofSeed seed)).mapIdx
        (larger.outcomeAt setting (larger.evaluator problem) none) := rfl
  refine ⟨larger.outcomeAt setting (larger.evaluator problem) none i _, ?_,
    Lineage.bestFitness_run_le hempty setting (Moment.hasCome none i) hgenerations _ _⟩
  rw [hlarger, hseeds, List.mapIdx_append]
  exact List.mem_append_left _ (List.mem_mapIdx.mpr ⟨i, hi, rfl⟩)

theorem fitnessScore_le_withBudget (hempty : Genotype.toPattern (Genotype.empty : G) = "")
    (s : Search) (hpos : s.config.lineages ≠ 0) {lineages generations : ℕ}
    (hlineages : s.config.lineages ≤ lineages)
    (hgenerations : s.config.generationsPerLineage ≤ generations) (problem : Problem)
    (seed : UInt64) :
    (s.search G problem seed none).1.fitnessScore ≤
      ((s.withBudget lineages generations).search G problem seed none).1.fitnessScore := by
  let larger := s.withBudget lineages generations
  have hpos' : larger.config.lineages ≠ 0 := Nat.ne_of_gt (by
    change 0 < lineages
    omega)
  obtain ⟨r, hr, hscore⟩ := (fitnessScore_isBest hempty s hpos problem seed none).attained
  have hbest := fitnessScore_isBest hempty larger hpos' problem seed none
  obtain ⟨r', hr', hle⟩ :=
    exists_outcomesAlone_withBudget hempty s hlineages hgenerations problem seed r hr
  obtain ⟨winner, hwinner, hscore'⟩ := hbest.attained
  have hnan := isNaN_outcomesAlone hempty s problem seed none r hr
  have hnan' := isNaN_outcomesAlone hempty larger problem seed none
  rw [← hscore]
  apply Binary64.le_trans hnan (hnan' r' hr') _ hle (hbest.greatest r' hr')
  rw [← hscore']
  exact hnan' winner hwinner

/-- A search with more lineages, or with more generations for each of them, never scores lower than
the search it enlarges. -/
theorem fitnessScore_le_of_budget_le (config : Config) (s : Search)
    (hconfig : ofConfig config = .ok s) (hseed : config.randomSeed.isSome = true)
    (lineages generations : ℕ) (hlineages : config.lineages ≤ lineages)
    (hgenerations : config.generationsPerLineage ≤ generations) :
    ∃ larger,
      ofConfig { config with lineages, generationsPerLineage := generations } = .ok larger ∧
      ∀ (problem : Problem) (entropy entropy' : UInt64),
        (s.runUntil problem entropy none).1.fitnessScore ≤
          (larger.runUntil problem entropy' none).1.fitnessScore := by
  obtain ⟨hvalid, -, -, rfl⟩ := ofConfig_eq_ok_iff.mp hconfig
  have hpos := lineages_ne_zero hvalid
  have hpos' := generationsPerLineage_ne_zero hvalid
  refine ⟨s.withBudget lineages generations,
    ofConfig_withBudget hconfig (by omega) (by omega), ?_⟩
  obtain ⟨seed, hseed⟩ := Option.isSome_iff_exists.mp hseed
  have hlarger : (s.withBudget lineages generations).config.randomSeed = some seed := hseed
  intro problem entropy entropy'
  cases hrepresentation : s.config.representation with
  | sequence =>
      rw [runUntil_sequence hseed hrepresentation, runUntil_sequence hlarger hrepresentation]
      exact fitnessScore_le_withBudget rfl s hpos hlineages hgenerations problem seed
  | tree =>
      rw [runUntil_tree hseed hrepresentation, runUntil_tree hlarger hrepresentation]
      exact fitnessScore_le_withBudget rfl s hpos hlineages hgenerations problem seed

/-- A drifting search over syntax trees that may take a generation less in each of two lineages
scores no higher than one that has a lineage more. -/
theorem fitnessScore_le_of_budget_le_drift :
    ∃ s larger,
      ofConfig
        { lineages := 2, generationsPerLineage := 30, representation := .tree, policy := .drift
          randomSeed := some 7 } = .ok s ∧
      ofConfig
        { lineages := 3, generationsPerLineage := 31, representation := .tree, policy := .drift
          randomSeed := some 7 } = .ok larger ∧
      (s.runUntil Problem.example 0 none).1.fitnessScore ≤
        (larger.runUntil Problem.example 1 none).1.fitnessScore := by
  obtain ⟨s, hconfig⟩ := exists_ofConfig
    { lineages := 2, generationsPerLineage := 30, representation := .tree, policy := .drift
      randomSeed := some 7 } (by rfl)
  obtain ⟨larger, hlarger, hle⟩ :=
    fitnessScore_le_of_budget_le _ s hconfig rfl 3 31 (by decide) (by decide)
  exact ⟨s, larger, hconfig, hlarger, hle Problem.example 0 1⟩

end Search

end RegexInference
