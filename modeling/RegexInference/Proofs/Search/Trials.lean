import Mathlib.Data.List.Basic
import RegexInference.Proofs.Search.Generations

/-!
# The trials of a lineage

Every generation of a lineage scores one trial.  What a run leaves behind can be read off the list
of its trials.  The run ends with its budget, with the word to halt, or with the first trial that is
perfect, and with no other.  Its record is the first of the best trials: a later one has to be
strictly better, a score that is no number never wins, and as long as no score is above minus
infinity the record is the empty candidate.
-/

namespace RegexInference

/-! ## The first of the greatest -/

/-- An element comes first among those with the greatest score.  Elements whose score is no number
do not count. -/
def FirstGreatest {α : Type} (score : α → Float) (xs : List α) (x : α) : Prop :=
  (score x).isNaN = false ∧ ∃ before after, xs = before ++ x :: after ∧
    (∀ y ∈ before, (score y).isNaN = false → score y < score x) ∧
    ∀ y ∈ after, (score y).isNaN = false → score y ≤ score x

namespace FirstGreatest

variable {α : Type} {score : α → Float} {xs : List α} {x y : α}

theorem mem (h : FirstGreatest score xs x) : x ∈ xs := by
  obtain ⟨-, before, after, rfl, -, -⟩ := h
  simp

theorem le (h : FirstGreatest score xs x) (hy : y ∈ xs) (hnumber : (score y).isNaN = false) :
    score y ≤ score x := by
  obtain ⟨hx, before, after, rfl, hbefore, hafter⟩ := h
  rcases List.mem_append.mp hy with hy | hy
  · exact Binary64.le_of_lt (hbefore y hy hnumber)
  · rcases List.mem_cons.mp hy with rfl | hy
    · exact Binary64.le_refl hx
    · exact hafter y hy hnumber

/-- An element behind all others that is not greater leaves the first as it is. -/
theorem concat (h : FirstGreatest score xs x) (hle : ¬ score x < score y) :
    FirstGreatest score (xs ++ [y]) x := by
  obtain ⟨hx, before, after, rfl, hbefore, hafter⟩ := h
  refine ⟨hx, before, after ++ [y], by simp, hbefore, fun z hz hnumber => ?_⟩
  rcases List.mem_append.mp hz with hz | hz
  · exact hafter z hz hnumber
  · obtain rfl := List.mem_singleton.mp hz
    exact Binary64.le_of_not_lt hx hnumber hle

/-- An element behind all others that is greater comes first. -/
theorem of_concat (hy : (score y).isNaN = false)
    (hlt : ∀ x ∈ xs, (score x).isNaN = false → score x < score y) :
    FirstGreatest score (xs ++ [y]) y :=
  ⟨hy, xs, [], rfl, hlt, fun _ hz => absurd hz List.not_mem_nil⟩

end FirstGreatest

/-! ## What is retained of some trials -/

/-- What a generation came up with, and its score. -/
structure ScoredTrial (G : Type) where
  candidate : G
  score : Float

variable {σ G V : Type} [Genotype G V]

/-- What is retained of some trials: the first of the best, if it is above minus infinity. -/
inductive Retains (trials : List (ScoredTrial G)) (best : G) (fitness : Float) : Prop where
  | nothing (hlow : ∀ t ∈ trials, ¬ -Fitness.infinity < t.score) (hbest : best = Genotype.empty)
      (hfitness : fitness = -Fitness.infinity)
  | trial (t : ScoredTrial G) (hfirst : FirstGreatest ScoredTrial.score trials t)
      (habove : -Fitness.infinity < t.score) (hbest : best = t.candidate)
      (hfitness : fitness = t.score)

namespace Retains

variable {trials : List (ScoredTrial G)} {best : G} {fitness : Float} {t : ScoredTrial G}

theorem isNumber (h : Retains trials best fitness) : fitness.isNaN = false := by
  cases h with
  | nothing _ _ hfitness => rw [hfitness, Binary64.isNaN_neg_infinity]
  | trial t hfirst _ _ hfitness => rw [hfitness, hfirst.1]

theorem covers (h : Retains trials best fitness) (ht : t ∈ trials)
    (hnumber : t.score.isNaN = false) : t.score ≤ fitness := by
  cases h with
  | nothing hlow _ hfitness =>
      rw [hfitness]
      exact Binary64.le_of_not_lt Binary64.isNaN_neg_infinity hnumber (hlow t ht)
  | trial first hfirst _ _ hfitness =>
      rw [hfitness]
      exact hfirst.le ht hnumber

theorem ne_infinity (h : Retains trials best fitness)
    (hplain : ∀ t ∈ trials, t.score ≠ Fitness.infinity) : fitness ≠ Fitness.infinity := by
  cases h with
  | nothing _ _ hfitness =>
      intro heq
      have hlevel := congrArg Binary64.level (hfitness.symm.trans heq)
      simp at hlevel
  | trial t hfirst _ _ hfitness =>
      rw [hfitness]
      exact hplain t hfirst.mem

theorem keep (h : Retains trials best fitness) (hle : ¬ fitness < t.score) :
    Retains (trials ++ [t]) best fitness := by
  cases h with
  | nothing hlow hbest hfitness =>
      refine .nothing (fun q hq => ?_) hbest hfitness
      rcases List.mem_append.mp hq with hq | hq
      · exact hlow q hq
      · obtain rfl := List.mem_singleton.mp hq
        rwa [hfitness] at hle
  | trial first hfirst habove hbest hfitness =>
      rw [hfitness] at hle
      exact .trial first (hfirst.concat hle) habove hbest hfitness

theorem replace (h : Retains trials best fitness) (hlt : fitness < t.score) :
    Retains (trials ++ [t]) t.candidate t.score := by
  have hnumber := (Binary64.isNaN_eq_false_of_lt hlt).2
  refine .trial t (.of_concat hnumber fun q hq hq' => ?_) ?_ rfl rfl
  · exact Binary64.lt_of_le_of_lt hq' (h.covers hq hq') hlt
  · cases h with
    | nothing _ _ hfitness => exact hfitness ▸ hlt
    | trial first hfirst habove _ hfitness => exact Binary64.lt_trans habove (hfitness ▸ hlt)

end Retains

namespace Lineage

variable {l next : Lineage σ G} {trial : G} {fitness : Float} {verdict : Verdict}

/-- The verdict on a trial retains what is best, unless a perfect trial was there before. -/
theorem Accepts.retains (haccepts : Accepts trial fitness l next verdict)
    {trials : List (ScoredTrial G)} (h : Retains trials l.best l.bestFitness)
    (hplain : l.bestFitness ≠ Fitness.infinity) :
    Retains (trials ++ [⟨trial, fitness⟩]) next.best next.bestFitness := by
  cases haccepts with
  | perfect hfitness hbest hrecord =>
      have hlt : l.bestFitness < fitness := by
        by_contra hle
        rw [hfitness] at hle
        exact hplain (Binary64.eq_infinity_of_le h.isNumber
          (Binary64.le_of_not_lt h.isNumber Binary64.isNaN_infinity hle))
      rw [hbest, hrecord]
      exact h.replace (t := ⟨trial, fitness⟩) hlt
  | improved _ hlt hbest hrecord =>
      rw [hbest, hrecord]
      exact h.replace (t := ⟨trial, fitness⟩) hlt
  | unchanged _ hle hbest hrecord =>
      rw [hbest, hrecord]
      exact h.keep (t := ⟨trial, fitness⟩) hle

/-! ## Trials one after the other -/

variable [Random.Source σ] (setting : LineageSetting V) (e : Evaluator) (l : Lineage σ G)

/-- The trial of the generation that has `i` generations before it. -/
def scoredTrial (i : ℕ) : ScoredTrial G :=
  let candidate := ((l.stepped setting e i).1.trial setting).1
  { candidate, score := Fitness.score e.params e.corpus (Genotype.toPattern candidate) }

theorem score_scoredTrial (i : ℕ) :
    (l.scoredTrial setting e i).score =
      Fitness.score e.params e.corpus (Genotype.toPattern (l.scoredTrial setting e i).candidate) :=
  rfl

/-- The trials of so many generations. -/
def scoredTrials (n : ℕ) : List (ScoredTrial G) := (List.range n).map (l.scoredTrial setting e)

theorem length_scoredTrials (n : ℕ) : (l.scoredTrials setting e n).length = n := by
  simp [scoredTrials]

theorem scoredTrials_succ (n : ℕ) :
    l.scoredTrials setting e (n + 1) =
      l.scoredTrials setting e n ++ [l.scoredTrial setting e n] := by
  simp [scoredTrials, List.range_succ]

/-- What the generation behind `i` others does with its trial. -/
theorem stepped_accepts (i : ℕ) :
    Accepts (l.scoredTrial setting e i).candidate (l.scoredTrial setting e i).score
      (l.stepped setting e i).1 (l.stepped setting e (i + 1)).1 (l.verdictBehind setting e i) := by
  have haccepts := step_accepts setting (l.stepped setting e i).2 (l.stepped setting e i).1
  rw [evaluator_stepped] at haccepts
  rw [stepped, verdictBehind, evaluator_stepped]
  exact haccepts

theorem verdictBehind_eq_perfect_iff (i : ℕ) :
    l.verdictBehind setting e i = .perfect ↔
      (l.scoredTrial setting e i).score = Fitness.infinity :=
  (stepped_accepts setting e l i).verdict_iff

variable {setting e l} {n : ℕ}

/-- What a lineage has on record is retained of its trials, the last of which may be perfect. -/
theorem retains_stepped (hstart : Retains [] l.best l.bestFitness)
    (hplain : ∀ i, i + 1 < n → l.verdictBehind setting e i ≠ .perfect) :
    Retains (l.scoredTrials setting e n) (l.stepped setting e n).1.best
      (l.stepped setting e n).1.bestFitness := by
  induction n with
  | zero => exact hstart
  | succ n ih =>
      have hnow := ih fun i hi => hplain i (Nat.lt_succ_of_lt hi)
      rw [scoredTrials_succ]
      refine (stepped_accepts setting e l n).retains hnow (hnow.ne_infinity fun t ht => ?_)
      obtain ⟨i, hi, rfl⟩ := List.mem_map.mp ht
      rw [Ne, ← verdictBehind_eq_perfect_iff]
      exact hplain i (Nat.succ_lt_succ (List.mem_range.mp hi))

/-! ## Runs -/

/-- The last of some trials is perfect. -/
def EndsPerfect (trials : List (ScoredTrial G)) : Prop :=
  ∃ t ∈ trials.getLast?, t.score = Fitness.infinity

/-- A run that was given a budget and asked whether to `halt` before every generation ended behind
these trials, and with good reason. -/
structure RunsThrough (halt : ℕ → Bool) (budget : ℕ) (trials : List (ScoredTrial G))
    (final : LineageOutcome G) : Prop where
  generations : final.generations = trials.length
  le_budget : trials.length ≤ budget
  unhalted : ∀ asked < trials.length, halt asked = false
  reason : trials.length = budget ∨ halt trials.length = true ∨ EndsPerfect trials
  plain : ∀ t ∈ trials.dropLast, t.score ≠ Fitness.infinity
  perfect_iff : final.perfect = true ↔ EndsPerfect trials
  retains : Retains trials final.best final.fitness

theorem endsPerfect_scoredTrials_iff :
    EndsPerfect (l.scoredTrials setting e n) ↔
      ∃ i, n = i + 1 ∧ l.verdictBehind setting e i = .perfect := by
  cases n with
  | zero => simp [EndsPerfect, scoredTrials]
  | succ n => simp [EndsPerfect, scoredTrials_succ, verdictBehind_eq_perfect_iff]

theorem mem_dropLast_scoredTrials {t : ScoredTrial G}
    (ht : t ∈ (l.scoredTrials setting e n).dropLast) :
    ∃ i, i + 1 < n ∧ l.scoredTrial setting e i = t := by
  cases n with
  | zero => exact absurd ht List.not_mem_nil
  | succ n =>
      rw [scoredTrials_succ, List.dropLast_concat] at ht
      obtain ⟨i, hi, hsame⟩ := List.mem_map.mp ht
      exact ⟨i, Nat.succ_lt_succ (List.mem_range.mp hi), hsame⟩

/-- If only the last trial may be perfect, the flag says whether it is. -/
theorem perfect_stepped_iff_endsPerfect (hflag : l.perfect = false)
    (hplain : ∀ i, i + 1 < n → l.verdictBehind setting e i ≠ .perfect) :
    (l.stepped setting e n).1.perfect = true ↔ EndsPerfect (l.scoredTrials setting e n) := by
  rw [perfect_stepped_iff, endsPerfect_scoredTrials_iff, hflag]
  constructor
  · rintro (hstart | ⟨i, hi, hperfect⟩)
    · cases hstart
    · have hlast : ¬ i + 1 < n := fun hlt => hplain i hlt hperfect
      exact ⟨i, by omega, hperfect⟩
  · rintro ⟨i, rfl, hperfect⟩
    exact Or.inr ⟨i, Nat.lt_succ_self i, hperfect⟩

/-- However a lineage is set and whenever it is told to halt, a run of it ends as soon as its budget
is used up, it is told to halt, or a trial is perfect, and not before.  It counts as perfect exactly
if its last trial is, and hands back the first of its best trials with its score, or the empty
candidate with minus infinity if no trial scores above that. -/
theorem run_retainsFirstBest (setting : LineageSetting V) (budget : ℕ) (halt : ℕ → Bool)
    (e : Evaluator) (source : σ) :
    let start : Lineage σ G := new source
    let final := (start.run setting budget halt e).1
    RunsThrough halt budget (start.scoredTrials setting e final.generation) final.outcome := by
  intro start final
  obtain ⟨n, hrun, hends⟩ := exists_endsBehind setting halt budget 0 e start
  have hfinal : final = (start.stepped setting e n).1 := congrArg Prod.fst hrun
  have hgeneration : final.generation = n := by
    rw [hfinal, generation_stepped]
    exact Nat.zero_add n
  have hstart : Retains [] start.best start.bestFitness :=
    .nothing (fun t ht => absurd ht List.not_mem_nil) rfl rfl
  rw [hgeneration]
  have hlength := length_scoredTrials setting e start n
  constructor
  · rw [hlength]
    exact hgeneration
  · rw [hlength]
    exact hends.le
  · intro asked hasked
    rw [hlength] at hasked
    rw [← Nat.zero_add asked]
    exact hends.unhalted asked hasked
  · rw [hlength, endsPerfect_scoredTrials_iff]
    rcases hends.reason with hall | hhalt | hperfect
    · exact Or.inl hall
    · rw [Nat.zero_add] at hhalt
      exact Or.inr (Or.inl hhalt)
    · exact Or.inr (Or.inr hperfect)
  · intro t ht
    obtain ⟨i, hi, rfl⟩ := mem_dropLast_scoredTrials ht
    rw [Ne, ← verdictBehind_eq_perfect_iff]
    exact hends.plain i hi
  · have hflag := perfect_stepped_iff_endsPerfect (rfl : start.perfect = false) hends.plain
    rw [← hfinal] at hflag
    exact hflag
  · have hretains := retains_stepped hstart hends.plain
    rw [← hfinal] at hretains
    exact hretains

end Lineage

end RegexInference
