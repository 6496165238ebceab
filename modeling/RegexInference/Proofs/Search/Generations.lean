import RegexInference.Genotype.Sequence
import RegexInference.Genotype.SyntaxTree
import RegexInference.Proofs.Float.Order
import RegexInference.Random.Cipher
import RegexInference.Search.Lineage

/-!
# Generations one after the other

A generation ends in one of three ways: its trial is a perfect classifier, or strictly better than
all trials before, or it is dropped.  Whichever it is, what the lineage has on record is the score
of its best candidate, and it counts as perfect exactly if this score is that of a perfect
classifier.  This also holds of a lineage that is stepped on behind a perfect trial, and of one
that drifts away from its best candidate.
-/

namespace RegexInference.Lineage

variable {σ G V : Type} [Genotype G V]

/-! ## What one generation can do -/

/-- How a lineage goes on from a trial with this fitness, by the verdict on the trial. -/
inductive Accepts (trial : G) (fitness : Float) (l next : Lineage σ G) : Verdict → Prop where
  | perfect (hfitness : fitness = Fitness.infinity) (hbest : next.best = trial)
      (hrecord : next.bestFitness = fitness) (hflag : next.perfect = true) :
      Accepts trial fitness l next .perfect
  | improved (hfitness : fitness ≠ Fitness.infinity) (hlt : l.bestFitness < fitness)
      (hbest : next.best = trial) (hrecord : next.bestFitness = fitness)
      (hflag : next.perfect = l.perfect) : Accepts trial fitness l next .improved
  | unchanged (hfitness : fitness ≠ Fitness.infinity) (hle : ¬ l.bestFitness < fitness)
      (hbest : next.best = l.best) (hrecord : next.bestFitness = l.bestFitness)
      (hflag : next.perfect = l.perfect) : Accepts trial fitness l next .unchanged

theorem accept_accepts (policy : Policy) (trial : G) (fitness : Float) (source : σ)
    (l : Lineage σ G) :
    Accepts trial fitness l (l.accept policy trial fitness source).2
      (l.accept policy trial fitness source).1 := by
  unfold accept
  dsimp only
  by_cases hperfect : Fitness.isPerfect fitness = true
  · rw [if_pos hperfect]
    exact .perfect (Binary64.isPerfect_iff.mp hperfect) rfl rfl rfl
  · have hfitness : fitness ≠ Fitness.infinity := mt Binary64.isPerfect_iff.mpr hperfect
    rw [if_neg hperfect]
    by_cases hlt : fitness > l.bestFitness
    · rw [if_pos hlt]
      exact .improved hfitness hlt rfl rfl rfl
    · rw [if_neg hlt]
      exact .unchanged hfitness hlt rfl rfl rfl

theorem generation_accept (policy : Policy) (trial : G) (fitness : Float) (source : σ)
    (l : Lineage σ G) :
    (l.accept policy trial fitness source).2.generation = l.generation + 1 := by
  unfold accept
  split_ifs <;> rfl

/-! ## What every generation keeps -/

/-- The record is the score of the best candidate, and the flag says whether it is perfect. -/
structure Consistent (params : FitnessParams) (corpus : Corpus) (l : Lineage σ G) : Prop where
  record : l.bestFitness = Fitness.score params corpus (Genotype.toPattern l.best)
  isNumber : l.bestFitness.isNaN = false
  perfect_iff : l.perfect = true ↔ l.bestFitness = Fitness.infinity

/-- What the verdict on a trial with this fitness says about the record. -/
structure Advances (fitness : Float) (verdict : Verdict) (l next : Lineage σ G) : Prop where
  le : l.bestFitness ≤ next.bestFitness
  improved : verdict = .improved → l.bestFitness < next.bestFitness
  unchanged : verdict = .unchanged → next.best = l.best ∧ next.bestFitness = l.bestFitness
  flag : l.perfect = true ∨ verdict = .perfect → next.perfect = true
  /-- No trial is better than the record behind it. -/
  covers : ¬ next.bestFitness < fitness

variable {params : FitnessParams} {corpus : Corpus} {l next : Lineage σ G} {trial : G}
  {fitness : Float} {verdict : Verdict}

theorem consistent_new (hempty : Genotype.toPattern (Genotype.empty : G) = "") (source : σ) :
    (new source : Lineage σ G).Consistent params corpus where
  record := by
    have hscore : Fitness.score params corpus "" = -Fitness.infinity := rfl
    change -Fitness.infinity = Fitness.score params corpus (Genotype.toPattern Genotype.empty)
    rw [hempty, hscore]
  isNumber := Binary64.isNaN_neg_infinity
  perfect_iff := by
    have hne : -Fitness.infinity ≠ Fitness.infinity := by
      intro heq
      have hlevel := congrArg Binary64.level heq
      simp at hlevel
    simp [new, hne]

theorem Accepts.consistent (haccepts : Accepts trial fitness l next verdict)
    (hfitness : fitness = Fitness.score params corpus (Genotype.toPattern trial))
    (hl : l.Consistent params corpus) : next.Consistent params corpus := by
  cases haccepts with
  | perfect hinfinity hbest hrecord hflag =>
      refine ⟨?_, ?_, ?_⟩
      · rw [hrecord, hbest, hfitness]
      · rw [hrecord, hinfinity, Binary64.isNaN_infinity]
      · simp [hflag, hrecord, hinfinity]
  | improved hne hlt hbest hrecord hflag =>
      -- What could be improved on was not perfect.
      have hplain : l.perfect ≠ true := by
        intro hperfect
        rw [hl.perfect_iff.mp hperfect] at hlt
        exact Binary64.not_infinity_lt fitness hlt
      refine ⟨?_, ?_, ?_⟩
      · rw [hrecord, hbest, hfitness]
      · rw [hrecord]
        exact (Binary64.isNaN_eq_false_of_lt hlt).2
      · simp [hflag, hrecord, hplain, hne]
  | unchanged hne hle hbest hrecord hflag =>
      refine ⟨?_, ?_, ?_⟩
      · rw [hrecord, hbest, hl.record]
      · rw [hrecord, hl.isNumber]
      · rw [hflag, hrecord, hl.perfect_iff]

theorem Accepts.advances (haccepts : Accepts trial fitness l next verdict)
    (hl : l.Consistent params corpus) : Advances fitness verdict l next := by
  cases haccepts with
  | perfect hinfinity hbest hrecord hflag =>
      have hle : l.bestFitness ≤ Fitness.infinity :=
        Binary64.le_of_not_lt Binary64.isNaN_infinity hl.isNumber
          (Binary64.not_infinity_lt l.bestFitness)
      refine ⟨?_, by simp, by simp, fun _ => hflag, ?_⟩
      · rw [hrecord, hinfinity]
        exact hle
      · rw [hrecord, hinfinity]
        exact Binary64.not_infinity_lt Fitness.infinity
  | improved hne hlt hbest hrecord hflag =>
      have hlt' : l.bestFitness < next.bestFitness := hrecord ▸ hlt
      refine ⟨Binary64.le_of_lt hlt', fun _ => hlt', by simp, by simp [hflag], ?_⟩
      rw [hrecord, Binary64.lt_iff_level (Binary64.isNaN_eq_false_of_lt hlt).2
        (Binary64.isNaN_eq_false_of_lt hlt).2]
      exact lt_irrefl _
  | unchanged hne hle hbest hrecord hflag =>
      refine ⟨?_, by simp, fun _ => ⟨hbest, hrecord⟩, by simp [hflag], ?_⟩
      · rw [hrecord]
        exact Binary64.le_refl hl.isNumber
      · rw [hrecord]
        exact hle

theorem Accepts.verdict_iff (haccepts : Accepts trial fitness l next verdict) :
    verdict = .perfect ↔ fitness = Fitness.infinity := by
  cases haccepts with
  | perfect hfitness => simp [hfitness]
  | improved hne => simp [hne]
  | unchanged hne => simp [hne]

theorem Accepts.flag_iff (haccepts : Accepts trial fitness l next verdict) :
    next.perfect = true ↔ l.perfect = true ∨ verdict = .perfect := by
  cases haccepts with
  | perfect _ _ _ hflag => simp [hflag]
  | improved _ _ _ _ hflag => simp [hflag]
  | unchanged _ _ _ _ hflag => simp [hflag]

/-- Only a trial that scores better than minus infinity becomes the best candidate. -/
theorem Accepts.best_cases (haccepts : Accepts trial fitness l next verdict) :
    next.best = l.best ∨ next.best = trial ∧ fitness ≠ -Fitness.infinity := by
  cases haccepts with
  | perfect hinfinity hbest =>
      refine Or.inr ⟨hbest, fun heq => ?_⟩
      have hlevel := congrArg Binary64.level (hinfinity.symm.trans heq)
      simp at hlevel
  | improved hne hlt hbest =>
      refine Or.inr ⟨hbest, fun heq => ?_⟩
      rw [heq] at hlt
      exact Binary64.not_lt_neg_infinity _ hlt
  | unchanged hne hle hbest => exact Or.inl hbest

/-! ## Any number of generations -/

variable [Random.Source σ]

/-- The lineage and the evaluator after so many generations, whatever came of them. -/
def stepped (setting : LineageSetting V) (e : Evaluator) (l : Lineage σ G) :
    (n : ℕ) → Lineage σ G × Evaluator
  | 0 => (l, e)
  | n + 1 =>
    let now := l.stepped setting e n
    (now.1.step setting now.2).2

theorem step_accepts (setting : LineageSetting V) (e : Evaluator) (l : Lineage σ G) :
    let trial := (l.trial setting).1
    Accepts trial (Fitness.score e.params e.corpus (Genotype.toPattern trial)) l
      (l.step setting e).2.1 (l.step setting e).1 :=
  accept_accepts _ _ _ _ l

theorem evaluator_step (setting : LineageSetting V) (e : Evaluator) (l : Lineage σ G) :
    (l.step setting e).2.2 = { e with evaluations := e.evaluations + 1 } := rfl

theorem generation_step (setting : LineageSetting V) (e : Evaluator) (l : Lineage σ G) :
    (l.step setting e).2.1.generation = l.generation + 1 :=
  generation_accept _ _ _ _ l

theorem generation_stepped (setting : LineageSetting V) (e : Evaluator) (l : Lineage σ G)
    (n : ℕ) : (l.stepped setting e n).1.generation = l.generation + n := by
  induction n with
  | zero => rfl
  | succ n ih =>
      rw [stepped, generation_step, ih, Nat.add_assoc]

theorem evaluator_stepped (setting : LineageSetting V) (e : Evaluator) (l : Lineage σ G)
    (n : ℕ) :
    (l.stepped setting e n).2 = { e with evaluations := e.evaluations + n } := by
  induction n with
  | zero => rfl
  | succ n ih =>
      rw [stepped, evaluator_step, ih]
      rfl

/-- What holds of a lineage whichever trials it accepts holds after any number of generations. -/
theorem stepped_induction {P : Lineage σ G → Prop} (setting : LineageSetting V) (e : Evaluator)
    (n : ℕ)
    (haccepts : ∀ {trial l next verdict},
      Accepts trial (Fitness.score e.params e.corpus (Genotype.toPattern trial)) l next verdict →
        P l → P next)
    (hl : P l) : P (l.stepped setting e n).1 := by
  induction n with
  | zero => exact hl
  | succ n ih =>
      have hstep := step_accepts setting (l.stepped setting e n).2 (l.stepped setting e n).1
      rw [evaluator_stepped] at hstep
      rw [stepped, evaluator_stepped]
      exact haccepts hstep ih

theorem consistent_stepped (setting : LineageSetting V) (e : Evaluator) (n : ℕ)
    (hl : l.Consistent e.params e.corpus) :
    (l.stepped setting e n).1.Consistent e.params e.corpus :=
  stepped_induction setting e n (fun haccepts hl => haccepts.consistent rfl hl) hl

/-! ## Runs -/

section

variable (setting : LineageSetting V) (halt : ℕ → Bool)

theorem runFor_succ (remaining asked : ℕ) (e : Evaluator) (l : Lineage σ G) :
    l.runFor setting halt (remaining + 1) asked e =
      if halt asked = true then (l, e)
      else if (l.step setting e).1 = .perfect then (l.step setting e).2
      else (l.step setting e).2.1.runFor setting halt remaining (asked + 1)
        (l.step setting e).2.2 := by
  rw [runFor]
  split_ifs with hhalt hperfect
  · rfl
  · split
    · next heq => rw [heq]
    · next hverdict heq =>
      rw [heq] at hperfect
      exact absurd hperfect (by simpa using hverdict)
  · split
    · next heq =>
      rw [heq] at hperfect
      exact absurd rfl hperfect
    · next heq => rw [heq]

theorem stepped_step (e : Evaluator) (l : Lineage σ G) (n : ℕ) :
    (l.step setting e).2.1.stepped setting (l.step setting e).2.2 n =
      l.stepped setting e (n + 1) := by
  induction n with
  | zero => rfl
  | succ n ih =>
      rw [stepped, ih]
      rfl

/-- The verdict on the generation that has `i` generations before it. -/
def verdictBehind (e : Evaluator) (l : Lineage σ G) (i : ℕ) : Verdict :=
  let now := l.stepped setting e i
  (now.1.step setting now.2).1

theorem verdictBehind_step (e : Evaluator) (l : Lineage σ G) (i : ℕ) :
    (l.step setting e).2.1.verdictBehind setting (l.step setting e).2.2 i =
      l.verdictBehind setting e (i + 1) := by
  unfold verdictBehind
  rw [stepped_step]

/-- The flag says whether a generation found a perfect trial. -/
theorem perfect_stepped_iff (e : Evaluator) (l : Lineage σ G) (n : ℕ) :
    (l.stepped setting e n).1.perfect = true ↔
      l.perfect = true ∨ ∃ i, i < n ∧ l.verdictBehind setting e i = .perfect := by
  induction n with
  | zero => simp [stepped]
  | succ n ih =>
      have haccepts := step_accepts setting (l.stepped setting e n).2 (l.stepped setting e n).1
      rw [stepped, haccepts.flag_iff, ih, Nat.exists_lt_succ_right, or_assoc]
      rfl

/-- A run may end behind `n` of the `remaining` generations, when it was `asked` so often before
whether to halt. -/
structure EndsBehind (remaining asked : ℕ) (e : Evaluator) (l : Lineage σ G) (n : ℕ) : Prop where
  le : n ≤ remaining
  unhalted : ∀ i < n, halt (asked + i) = false
  plain : ∀ i, i + 1 < n → l.verdictBehind setting e i ≠ .perfect
  reason : n = remaining ∨ halt (asked + n) = true ∨
    ∃ i, n = i + 1 ∧ l.verdictBehind setting e i = .perfect

variable {setting halt}

theorem endsBehind_zero {remaining asked : ℕ} {e : Evaluator} {l : Lineage σ G}
    (hreason : remaining = 0 ∨ halt asked = true) :
    l.EndsBehind setting halt remaining asked e 0 where
  le := Nat.zero_le _
  unhalted _ hi := absurd hi (Nat.not_lt_zero _)
  plain _ hi := absurd hi (Nat.not_lt_zero _)
  reason := hreason.imp Eq.symm Or.inl

/-- A run that takes a generation without a perfect trial ends one behind the rest of it. -/
theorem EndsBehind.succ {remaining asked n : ℕ} {e : Evaluator} {l : Lineage σ G}
    (h : (l.step setting e).2.1.EndsBehind setting halt remaining (asked + 1)
      (l.step setting e).2.2 n)
    (hhalt : halt asked = false) (hplain : l.verdictBehind setting e 0 ≠ .perfect) :
    l.EndsBehind setting halt (remaining + 1) asked e (n + 1) where
  le := Nat.succ_le_succ h.le
  unhalted i hi := by
    cases i with
    | zero => exact hhalt
    | succ i =>
        rw [← Nat.succ_add_eq_add_succ]
        exact h.unhalted i (Nat.lt_of_succ_lt_succ hi)
  plain i hi := by
    cases i with
    | zero => exact hplain
    | succ i =>
        rw [← verdictBehind_step]
        exact h.plain i (Nat.lt_of_succ_lt_succ hi)
  reason := by
    rcases h.reason with hall | hhalted | ⟨i, hi, hperfect⟩
    · exact Or.inl (congrArg Nat.succ hall)
    · rw [Nat.succ_add_eq_add_succ] at hhalted
      exact Or.inr (Or.inl hhalted)
    · rw [verdictBehind_step] at hperfect
      exact Or.inr (Or.inr ⟨i + 1, congrArg Nat.succ hi, hperfect⟩)

variable (setting halt)

/-- A run is nothing but a number of generations, and there is a reason for it to end behind
them. -/
theorem exists_endsBehind (remaining asked : ℕ) (e : Evaluator) (l : Lineage σ G) :
    ∃ n, l.runFor setting halt remaining asked e = l.stepped setting e n ∧
      l.EndsBehind setting halt remaining asked e n := by
  induction remaining generalizing asked e l with
  | zero => exact ⟨0, rfl, endsBehind_zero (Or.inl rfl)⟩
  | succ remaining ih =>
      rw [runFor_succ]
      by_cases hhalt : halt asked = true
      · rw [if_pos hhalt]
        exact ⟨0, rfl, endsBehind_zero (Or.inr hhalt)⟩
      · rw [if_neg hhalt]
        rw [Bool.not_eq_true] at hhalt
        by_cases hperfect : (l.step setting e).1 = .perfect
        · rw [if_pos hperfect]
          refine ⟨1, rfl, Nat.le_add_left 1 remaining, fun i hi => ?_, fun i hi => ?_, ?_⟩
          · obtain rfl := Nat.lt_one_iff.mp hi
            exact hhalt
          · omega
          · exact Or.inr (Or.inr ⟨0, rfl, hperfect⟩)
        · rw [if_neg hperfect]
          obtain ⟨n, hrun, hends⟩ := ih (asked + 1) (l.step setting e).2.2 (l.step setting e).2.1
          exact ⟨n + 1, by rw [hrun, stepped_step], hends.succ hhalt hperfect⟩

theorem exists_runFor_eq_stepped (remaining asked : ℕ) (e : Evaluator) (l : Lineage σ G) :
    ∃ n, l.runFor setting halt remaining asked e = l.stepped setting e n := by
  obtain ⟨n, hn, -⟩ := exists_endsBehind setting halt remaining asked e l
  exact ⟨n, hn⟩

theorem exists_run_eq_stepped (budget : ℕ) (e : Evaluator) (l : Lineage σ G) :
    ∃ n, l.run setting budget halt e = l.stepped setting e n :=
  exists_runFor_eq_stepped setting halt (budget - l.generation) 0 e l

end

/-- However many generations a lineage over these candidates has taken, its record is consistent,
the generations and the scores are counted, and the next generation advances the record. -/
def KeepsRecord (G : Type) {V : Type} [Genotype G V] : Prop :=
  ∀ (setting : LineageSetting V) (e : Evaluator) (seed : UInt64) (n : ℕ),
    let now := (new (Random.Stream.ofSeed seed) : Lineage Random.Stream G).stepped setting e n
    let next := now.1.step setting now.2
    let trial := (now.1.trial setting).1
    now.1.Consistent e.params e.corpus ∧
      now.1.generation = n ∧
      now.2 = { e with evaluations := e.evaluations + n } ∧
      Advances (Fitness.score e.params e.corpus (Genotype.toPattern trial)) next.1 now.1 next.2.1

theorem keepsRecord_of_empty (hempty : Genotype.toPattern (Genotype.empty : G) = "") :
    KeepsRecord G := by
  intro setting e seed n now next trial
  have hnow : now.1.Consistent e.params e.corpus :=
    consistent_stepped setting e n (consistent_new hempty _)
  have hevaluator : now.2 = { e with evaluations := e.evaluations + n } :=
    evaluator_stepped setting e _ n
  have haccepts := step_accepts setting now.2 now.1
  rw [show now.2.params = e.params by rw [hevaluator],
    show now.2.corpus = e.corpus by rw [hevaluator]] at haccepts
  refine ⟨hnow, ?_, hevaluator, haccepts.advances hnow⟩
  exact (generation_stepped setting e _ n).trans (Nat.zero_add n)

/-- Lineages over sequences and over syntax trees keep their record, under any setting, evaluator
and seed. -/
theorem stepped_keepsRecord : KeepsRecord Sequence ∧ KeepsRecord SyntaxTree :=
  ⟨keepsRecord_of_empty rfl, keepsRecord_of_empty rfl⟩

end RegexInference.Lineage
