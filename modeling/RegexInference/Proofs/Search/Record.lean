import RegexInference.Proofs.Search.Generations
import RegexInference.Search.Run

/-!
# What lineages record

A lineage keeps its best candidate together with a fitness.  The fitness is the one that scoring
the candidate's pattern gives, and it is above minus infinity unless nothing was kept yet.  Every
generation preserves this, so it holds for whatever a lineage hands back, however it was stopped.
-/

namespace RegexInference

variable {σ G V : Type} [Genotype G V]

/-- A fitness is recorded for a candidate: none so far, or the score of its pattern. -/
def Recorded (params : FitnessParams) (corpus : Corpus) (best : G) (fitness : Float) : Prop :=
  (best = Genotype.empty ∧ fitness = -Fitness.infinity) ∨
    (-Fitness.infinity < fitness ∧
      fitness = Fitness.score params corpus (Genotype.toPattern best))

namespace Recorded

variable {params : FitnessParams} {corpus : Corpus} {best : G} {fitness : Float}

theorem isNaN_eq_false (h : Recorded params corpus best fitness) : fitness.isNaN = false := by
  rcases h with ⟨-, rfl⟩ | ⟨hlt, -⟩
  · rfl
  · exact (Binary64.isNaN_eq_false_of_lt hlt).2

theorem score_eq (h : Recorded params corpus best fitness) (hlt : -Fitness.infinity < fitness) :
    fitness = Fitness.score params corpus (Genotype.toPattern best) := by
  rcases h with ⟨-, rfl⟩ | ⟨-, hscore⟩
  · rw [Binary64.lt_iff_level rfl rfl] at hlt
    exact absurd hlt (lt_irrefl _)
  · exact hscore

/-- Whatever is recorded beats minus infinity or equals it. -/
theorem eq_neg_infinity_of_le (h : Recorded params corpus best fitness)
    (hle : fitness ≤ -Fitness.infinity) : fitness = -Fitness.infinity := by
  rcases h with ⟨-, hfitness⟩ | ⟨hlt, -⟩
  · exact hfitness
  · have hnan := (Binary64.isNaN_eq_false_of_lt hlt).2
    rw [Binary64.le_iff_level hnan rfl] at hle
    rw [Binary64.lt_iff_level rfl hnan] at hlt
    exact absurd hlt (not_lt.mpr hle)

end Recorded

/-! ## Generations -/

namespace Lineage

variable {params : FitnessParams} {corpus : Corpus} {l : Lineage σ G}

theorem new_recorded (source : σ) :
    Recorded params corpus (new source : Lineage σ G).best (new source : Lineage σ G).bestFitness :=
  Or.inl ⟨rfl, rfl⟩

/-- A trial that is kept is kept with its score; any other leaves the record as it is. -/
theorem Accepts.recorded {next : Lineage σ G} {trial : G} {fitness : Float} {verdict : Verdict}
    (haccepts : Accepts trial fitness l next verdict)
    (hfitness : fitness = Fitness.score params corpus (Genotype.toPattern trial))
    (hrecorded : Recorded params corpus l.best l.bestFitness) :
    Recorded params corpus next.best next.bestFitness := by
  cases haccepts with
  | perfect hinfinity hbest hrecord =>
      have hperfect : Fitness.isPerfect fitness = true := Binary64.isPerfect_iff.mpr hinfinity
      rw [hbest, hrecord]
      exact Or.inr ⟨Binary64.neg_infinity_lt_of_isPerfect hperfect, hfitness⟩
  | improved hne hlt hbest hrecord =>
      rw [hbest, hrecord]
      refine Or.inr ⟨?_, hfitness⟩
      rcases hrecorded with ⟨-, hstart⟩ | ⟨habove, -⟩
      · exact hstart ▸ hlt
      · exact Binary64.lt_trans habove hlt
  | unchanged hne hle hbest hrecord =>
      rw [hbest, hrecord]
      exact hrecorded

variable [Random.Source σ]

/-- Whenever a lineage stops, its record is sound. -/
theorem run_recorded (setting : LineageSetting V) (budget : ℕ) (halt : ℕ → Bool)
    (e : Evaluator) (source : σ) :
    let final := (new source : Lineage σ G).run setting budget halt e
    Recorded e.params e.corpus final.1.best final.1.bestFitness ∧
      final.2.params = e.params ∧ final.2.corpus = e.corpus := by
  intro final
  obtain ⟨n, hfinal⟩ : ∃ n, final = (new source : Lineage σ G).stepped setting e n :=
    exists_run_eq_stepped setting halt budget e (new source)
  have hrecorded := stepped_induction
    (P := fun l : Lineage σ G => Recorded e.params e.corpus l.best l.bestFitness) setting e n
    (fun haccepts hl => haccepts.recorded rfl hl) (new_recorded source)
  rw [hfinal]
  refine ⟨hrecorded, ?_, ?_⟩
  · rw [evaluator_stepped]
  · rw [evaluator_stepped]

end Lineage

/-! ## Searches -/

namespace Search

/-- The evaluator is the one the search began with, and all results are sound records. -/
structure Ledger.Sound (params : FitnessParams) (corpus : Corpus) (ledger : Ledger G) : Prop where
  params_eq : ledger.evaluator.params = params
  corpus_eq : ledger.evaluator.corpus = corpus
  recorded : ∀ r ∈ ledger.results, Recorded params corpus r.best r.fitness

variable {params : FitnessParams} {corpus : Corpus}

theorem runLineage_sound (s : Search) (setting : LineageSetting V) (cancelAt : Option Moment)
    (ledger : Ledger G) (seed : UInt64) (hsound : ledger.Sound params corpus) :
    (s.runLineage setting cancelAt ledger seed).Sound params corpus := by
  obtain ⟨hparams, hcorpus, hrecorded⟩ := hsound
  obtain ⟨hlast, hlastParams, hlastCorpus⟩ :=
    Lineage.run_recorded (G := G) setting s.config.generationsPerLineage
      (fun asked => Moment.hasCome cancelAt ledger.results.length asked ||
        s.config.stopOnPerfect && ledger.solved)
      ledger.evaluator (Random.Stream.ofSeed seed)
  rw [hparams, hcorpus] at hlast
  refine ⟨hlastParams.trans hparams, hlastCorpus.trans hcorpus, ?_⟩
  intro r hr
  rcases List.mem_cons.mp hr with rfl | hr
  · exact hlast
  · exact hrecorded r hr

theorem foldl_runLineage_sound (s : Search) (setting : LineageSetting V)
    (cancelAt : Option Moment) (seeds : List UInt64) (ledger : Ledger G)
    (hsound : ledger.Sound params corpus) :
    (seeds.foldl (s.runLineage setting cancelAt) ledger).Sound params corpus := by
  induction seeds generalizing ledger with
  | nil => exact hsound
  | cons seed seeds ih => exact ih _ (runLineage_sound s setting cancelAt ledger seed hsound)

theorem runLineages_sound (s : Search) (problem : Problem) (seed : UInt64)
    (cancelAt : Option Moment) :
    (s.runLineages problem seed cancelAt : Ledger G).Sound s.config.fitness
      (Corpus.ofProblem problem) := by
  apply foldl_runLineage_sound
  exact ⟨rfl, rfl, fun r hr => absurd hr List.not_mem_nil⟩

theorem length_seeds [Random.Source σ] (n : ℕ) (source : σ) : (seeds n source).length = n := by
  induction n generalizing source with
  | zero => rfl
  | succ n ih => exact congrArg (· + 1) (ih _)

theorem length_foldl_runLineage (s : Search) (setting : LineageSetting V)
    (cancelAt : Option Moment) (seeds : List UInt64) (ledger : Ledger G) :
    (seeds.foldl (s.runLineage setting cancelAt) ledger).results.length =
      ledger.results.length + seeds.length := by
  induction seeds generalizing ledger with
  | nil => rfl
  | cons seed seeds ih =>
      rw [List.foldl_cons, ih, List.length_cons]
      change ledger.results.length + 1 + seeds.length = _
      omega

/-- Every lineage leaves a result, also after a cancellation. -/
theorem length_runLineages (s : Search) (problem : Problem) (seed : UInt64)
    (cancelAt : Option Moment) :
    (s.runLineages problem seed cancelAt : Ledger G).results.length = s.config.lineages := by
  unfold runLineages
  rw [length_foldl_runLineage, length_seeds]
  exact Nat.zero_add _

end Search

end RegexInference
