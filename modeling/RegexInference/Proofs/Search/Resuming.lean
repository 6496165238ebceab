import RegexInference.Proofs.Literals
import RegexInference.Proofs.Fitness.Perfect
import RegexInference.Proofs.Search.Trials
import RegexInference.Random.Cipher

/-!
# Lineages that are stepped before they run

A lineage may be stepped one generation at a time before it is run to the end of its budget.  As
long as none of these generations finds a perfect pattern, the run goes on exactly where they end,
and it makes no difference that they were taken one by one.  But a run only looks at the trials that
it takes itself.  When a perfect pattern was found before, it takes a generation more, although a
run from the start would have ended there; the score stays that of a perfect pattern, but the
generations no longer agree.
-/

namespace RegexInference.Lineage

variable {σ G V : Type} [Genotype G V]

/-! ## What is known of a lineage that found a perfect pattern -/

section

variable {l next : Lineage σ G} {trial : G} {fitness : Float} {verdict : Verdict}

/-- A lineage that counts as perfect has the score of a perfect pattern on record. -/
def FlagTells (l : Lineage σ G) : Prop := l.perfect = true → l.bestFitness = Fitness.infinity

theorem Accepts.flagTells (haccepts : Accepts trial fitness l next verdict) (hl : l.FlagTells) :
    next.FlagTells := by
  intro hperfect
  cases haccepts with
  | perfect hfitness _ hrecord _ => rw [hrecord, hfitness]
  | improved _ hlt _ _ hflag =>
      rw [hl (hflag ▸ hperfect)] at hlt
      exact absurd hlt (Binary64.not_infinity_lt fitness)
  | unchanged _ _ _ hrecord hflag => rw [hrecord, hl (hflag ▸ hperfect)]

end

/-! ## Stepping by hand -/

variable [Random.Source σ]

/-- Takes so many generations, but none behind a perfect trial. -/
def stepTimes (setting : LineageSetting V) : (k : ℕ) → Evaluator → Lineage σ G →
    Lineage σ G × Evaluator
  | 0, e, l => (l, e)
  | k + 1, e, l =>
    let taken := l.step setting e
    if taken.1 = .perfect then taken.2 else stepTimes setting k taken.2.2 taken.2.1

/-- Runs to the end of the budget, and is never told to halt. -/
def runOut (setting : LineageSetting V) (budget : ℕ) (e : Evaluator) (l : Lineage σ G) :
    Lineage σ G × Evaluator :=
  l.run setting budget (fun _ => false) e

variable (setting : LineageSetting V) {e : Evaluator} {l : Lineage σ G}

theorem stepTimes_succ (k : ℕ) (e : Evaluator) (l : Lineage σ G) :
    l.stepTimes setting (k + 1) e =
      if (l.step setting e).1 = .perfect then (l.step setting e).2
      else (l.step setting e).2.1.stepTimes setting k (l.step setting e).2.2 := rfl

/-- A run that is never told to halt takes the same steps. -/
theorem runFor_never (k asked : ℕ) (e : Evaluator) (l : Lineage σ G) :
    l.runFor setting (fun _ => false) k asked e = l.stepTimes setting k e := by
  induction k generalizing asked e l with
  | zero => rfl
  | succ k ih => rw [runFor_succ, if_neg Bool.false_ne_true, stepTimes_succ, ih]

theorem runOut_eq_stepTimes (budget : ℕ) (e : Evaluator) (l : Lineage σ G) :
    l.runOut setting budget e = l.stepTimes setting (budget - l.generation) e :=
  runFor_never setting (budget - l.generation) 0 e l

theorem exists_stepTimes_eq_stepped (k : ℕ) (e : Evaluator) (l : Lineage σ G) :
    ∃ n, l.stepTimes setting k e = l.stepped setting e n := by
  rw [← runFor_never setting k 0]
  exact exists_runFor_eq_stepped setting _ k 0 e l

theorem stepTimes_flagTells (hl : l.FlagTells) (k : ℕ) :
    (l.stepTimes setting k e).1.FlagTells := by
  obtain ⟨n, hn⟩ := exists_stepTimes_eq_stepped setting k e l
  rw [hn]
  exact stepped_induction (P := FlagTells) setting e n (fun haccepts => haccepts.flagTells) hl

theorem perfect_stepTimes (hl : l.perfect = true) (k : ℕ) :
    (l.stepTimes setting k e).1.perfect = true := by
  obtain ⟨n, hn⟩ := exists_stepTimes_eq_stepped setting k e l
  rw [hn, perfect_stepped_iff]
  exact Or.inl hl

theorem generation_le_stepTimes (k : ℕ) (e : Evaluator) (l : Lineage σ G) :
    l.generation ≤ (l.stepTimes setting k e).1.generation := by
  obtain ⟨n, hn⟩ := exists_stepTimes_eq_stepped setting k e l
  rw [hn, generation_stepped]
  exact Nat.le_add_right _ _

theorem generation_lt_stepTimes {k : ℕ} (hk : k ≠ 0) (e : Evaluator) (l : Lineage σ G) :
    l.generation < (l.stepTimes setting k e).1.generation := by
  obtain ⟨k, rfl⟩ := Nat.exists_eq_succ_of_ne_zero hk
  have hstep := generation_step setting e l
  rw [stepTimes_succ]
  split_ifs with hperfect
  · rw [hstep]
    exact Nat.lt_succ_self _
  · have hle := generation_le_stepTimes setting k (l.step setting e).2.2 (l.step setting e).2.1
    rw [hstep] at hle
    exact hle

/-! ## More steps -/

section

variable {k : ℕ}

/-- Once a perfect pattern was found, further steps by hand are not taken. -/
theorem stepTimes_of_perfect (m : ℕ) (hflag : l.perfect = false)
    (hperfect : (l.stepTimes setting k e).1.perfect = true) :
    l.stepTimes setting (k + m) e = l.stepTimes setting k e := by
  induction k generalizing e l with
  | zero =>
      change l.perfect = true at hperfect
      rw [hflag] at hperfect
      cases hperfect
  | succ k ih =>
      rw [stepTimes_succ] at hperfect
      rw [Nat.succ_add, stepTimes_succ, stepTimes_succ]
      by_cases hverdict : (l.step setting e).1 = .perfect
      · rw [if_pos hverdict, if_pos hverdict]
      · rw [if_neg hverdict] at hperfect
        rw [if_neg hverdict, if_neg hverdict]
        refine ih ?_ hperfect
        simp [← Bool.not_eq_true, (step_accepts setting e l).flag_iff, hflag, hverdict]

/-- Until then steps by hand follow one another. -/
theorem stepTimes_of_plain (m : ℕ) (hplain : (l.stepTimes setting k e).1.perfect = false) :
    let reached := l.stepTimes setting k e
    reached.1.generation = l.generation + k ∧
      l.stepTimes setting (k + m) e = reached.1.stepTimes setting m reached.2 := by
  intro reached
  induction k generalizing e l with
  | zero =>
      rw [Nat.zero_add]
      exact ⟨rfl, rfl⟩
  | succ k ih =>
      have hreached : reached = l.stepTimes setting (k + 1) e := rfl
      rw [stepTimes_succ] at hplain hreached
      rw [Nat.succ_add, stepTimes_succ]
      by_cases hverdict : (l.step setting e).1 = .perfect
      · rw [if_pos hverdict, (step_accepts setting e l).flag_iff.mpr (Or.inr hverdict)] at hplain
        cases hplain
      · rw [if_neg hverdict] at hplain hreached
        obtain ⟨hgeneration, hmore⟩ := ih hplain
        rw [if_neg hverdict, hreached, hmore, hgeneration, generation_step]
        exact ⟨by omega, rfl⟩

end

/-! ## Running behind steps by hand -/

/-- A lineage that was stepped by hand comes to the same result as one that is run from the start:
the same best candidate with the same score, the same generations and the same flag. -/
def ResumesAsRun (budget k : ℕ) (e : Evaluator) (start : Lineage σ G) : Prop :=
  let reached := start.stepTimes setting k e
  (reached.1.runOut setting budget reached.2).1.outcome =
    (start.runOut setting budget e).1.outcome

/-- How a run that begins behind steps by hand compares with a `straight` run from the start. -/
structure Resumes (budget : ℕ) (reached resumed straight : Lineage σ G × Evaluator) : Prop where
  /-- Without a perfect pattern the two do not differ in anything. -/
  unsolved : reached.1.perfect = false → resumed = straight
  /-- With one the straight run ends where the steps ended. -/
  solved : reached.1.perfect = true → straight = reached
  overruns : reached.1.perfect = true → reached.1.generation < budget →
    straight.1.generation < resumed.1.generation
  fitness : resumed.1.bestFitness = straight.1.bestFitness
  flag : resumed.1.perfect = straight.1.perfect

omit [Random.Source σ] in
theorem Resumes.of_plain {budget : ℕ} {reached straight : Lineage σ G × Evaluator}
    (hplain : reached.1.perfect = false) : Resumes budget reached straight straight := by
  have hnever : reached.1.perfect ≠ true := by simp [hplain]
  exact ⟨fun _ => rfl, fun h => absurd h hnever, fun h => absurd h hnever, rfl, rfl⟩

/-- A lineage that is perfect before it runs may only end with another perfect pattern. -/
theorem resumes_of_perfect {reached : Lineage σ G × Evaluator}
    (hperfect : reached.1.perfect = true) (htells : reached.1.FlagTells) (budget : ℕ) :
    Resumes budget reached (reached.1.runOut setting budget reached.2) reached := by
  rw [runOut_eq_stepTimes]
  have hflag := perfect_stepTimes setting (e := reached.2) hperfect
    (budget - reached.1.generation)
  refine ⟨fun hplain => ?_, fun _ => rfl, fun _ hlt => ?_, ?_, ?_⟩
  · rw [hperfect] at hplain
    cases hplain
  · exact generation_lt_stepTimes setting (Nat.sub_ne_zero_of_lt hlt) reached.2 reached.1
  · rw [htells hperfect]
    exact stepTimes_flagTells setting htells _ hflag
  · rw [hperfect, hflag]

theorem resumes_of_start {start : Lineage σ G} (hflag : start.perfect = false) {budget k : ℕ}
    (hk : start.generation + k ≤ budget) (e : Evaluator) :
    let reached := start.stepTimes setting k e
    Resumes budget reached (reached.1.runOut setting budget reached.2)
      (start.runOut setting budget e) := by
  intro reached
  obtain ⟨m, hm⟩ := Nat.exists_eq_add_of_le hk
  have hstraight : start.runOut setting budget e = start.stepTimes setting (k + m) e := by
    rw [runOut_eq_stepTimes, hm, Nat.add_assoc, Nat.add_sub_cancel_left]
  rw [hstraight]
  by_cases hperfect : reached.1.perfect = true
  · have htells : start.FlagTells := fun htrue => absurd htrue (by simp [hflag])
    rw [stepTimes_of_perfect setting m hflag hperfect]
    exact resumes_of_perfect setting hperfect (stepTimes_flagTells setting htells k) budget
  · rw [Bool.not_eq_true] at hperfect
    obtain ⟨hgeneration, hmore⟩ := stepTimes_of_plain setting m hperfect
    have hrest : budget - reached.1.generation = m := by
      rw [hgeneration, hm, Nat.add_sub_cancel_left]
    rw [runOut_eq_stepTimes, hrest, hmore]
    exact .of_plain hperfect

omit [Random.Source σ] in
theorem Resumes.outcome_eq_iff {budget : ℕ} {reached resumed straight : Lineage σ G × Evaluator}
    (h : Resumes budget reached resumed straight)
    (hended : budget ≤ reached.1.generation → resumed = reached) :
    resumed.1.outcome = straight.1.outcome ↔
      (reached.1.perfect = true → budget ≤ reached.1.generation) := by
  constructor
  · intro hsame hperfect
    by_contra hlt
    have hmore := h.overruns hperfect (Nat.lt_of_not_le hlt)
    have hgenerations := congrArg LineageOutcome.generations hsame
    exact absurd hgenerations hmore.ne'
  · intro hfull
    cases hflag : reached.1.perfect with
    | false => rw [h.unsolved hflag]
    | true => rw [h.solved hflag, hended (hfull hflag)]

/-- A lineage that was stepped by hand runs as if it had run from the start, unless a step found a
perfect pattern before the budget was used up.  Then it takes more generations than a run from the
start, and keeps only the score and the flag. -/
theorem resumesAsRun_iff (source : σ) (e : Evaluator) {budget k : ℕ} (hk : k ≤ budget) :
    let start : Lineage σ G := new source
    let reached := start.stepTimes setting k e
    (start.ResumesAsRun setting budget k e ↔
        (reached.1.perfect = true → budget ≤ reached.1.generation)) ∧
      Resumes budget reached (reached.1.runOut setting budget reached.2)
        (start.runOut setting budget e) := by
  intro start reached
  have hfits : start.generation + k ≤ budget := (Nat.zero_add k).le.trans hk
  have hresumes := resumes_of_start setting (rfl : start.perfect = false) hfits e
  refine ⟨hresumes.outcome_eq_iff fun hended => ?_, hresumes⟩
  rw [runOut_eq_stepTimes, Nat.sub_eq_zero_of_le hended]
  rfl

/-- A drifting lineage of syntax trees that is stepped three times by hand. -/
theorem drifting_trees_resume :
    ∃ wheel, OperatorWheel.ofWeights {} = .ok wheel ∧ 3 ≤ 5 ∧
      let setting : LineageSetting NodeSupply :=
        { vocabulary := Genotype.vocabulary SyntaxTree (.ofTokens ["a", "b"]), operators := wheel
          mutations := ⟨1, 3, by decide⟩, policy := .drift }
      let e : Evaluator := { params := {}, corpus := ⟨["ab"], ["b"]⟩ }
      let start : Lineage Random.Stream SyntaxTree := new (.ofSeed 7)
      let reached := start.stepTimes setting 3 e
      (start.ResumesAsRun setting 5 3 e ↔
          (reached.1.perfect = true → 5 ≤ reached.1.generation)) ∧
        Resumes 5 reached (reached.1.runOut setting 5 reached.2) (start.runOut setting 5 e) :=
  ⟨_, rfl, by decide, resumesAsRun_iff _ _ _ (by decide)⟩

/-! ## A run that does not end -/

/-- A pattern that stands for a text is perfect if the text is the only good one and no bad one
contains it. -/
theorem score_of_matchesExactly {params : FitnessParams} {corpus : Corpus} {pattern text : String}
    (hpattern : Matcher.MatchesExactly pattern text) (hmode : params.mode = .span)
    (hsome : corpus.positive ≠ []) (hpositive : ∀ s ∈ corpus.positive, s = text)
    (hnegative : ∀ s ∈ corpus.negative, ¬ text.toList <:+: s.toList) :
    Fitness.score params corpus pattern = Fitness.infinity := by
  obtain ⟨p, hp, hmatches⟩ := hpattern.span
  have hseparates : Fitness.separates corpus p = true := by
    refine Fitness.separates_iff.mpr ⟨hsome, fun s hs => ?_, fun s hs => ?_⟩
    · exact (hmatches s).2.2.mpr (hpositive s hs)
    · rw [← Bool.not_eq_true, (hmatches s).1]
      exact hnegative s hs
  unfold Fitness.score
  rw [hmode, hp]
  exact if_pos hseparates

/-- The pattern of a single digit, the only good text, is perfect if no bad text contains it. -/
theorem score_one {params : FitnessParams} {corpus : Corpus} (hmode : params.mode = .span)
    (hpositive : corpus.positive = ["1"])
    (hnegative : ∀ s ∈ corpus.negative, ¬ "1".toList <:+: s.toList) :
    Fitness.score params corpus (Sequence.toPattern ⟨[.literal "1"]⟩) = Fitness.infinity := by
  have hmatches : Matcher.MatchesExactly (Sequence.toPattern ⟨[.literal "1"]⟩) "1" := by
    rw [show [Symbol.literal "1"] = ["1"].map .literal from rfl, Sequence.toPattern_literals]
    exact Matcher.escaped_matchesExactly (by decide) (by rfl)
  refine score_of_matchesExactly hmatches hmode ?_ (fun s hs => ?_) hnegative
  · simp [hpositive]
  · simpa [hpositive] using hs

/-- The first insertion finds the perfect pattern with which a run from the start ends, but a run
behind it takes another generation. -/
theorem perfect_insertion_not_resumed :
    ∃ wheel, OperatorWheel.ofWeights ⟨1.0, 0.0, 0.0, 0.0⟩ = .ok wheel ∧ 1 ≤ 2 ∧
      let setting : LineageSetting Alphabet :=
        { vocabulary := .ofTokens ["1"], operators := wheel, mutations := ⟨1, 1, le_rfl⟩
          policy := .hillClimb }
      let e : Evaluator := { params := {}, corpus := ⟨["1"], ["0"]⟩ }
      let start : Lineage Random.Stream Sequence := new (.ofSeed 1)
      ¬ start.ResumesAsRun setting 2 1 e := by
  refine ⟨_, rfl, by decide, ?_⟩
  intro setting e start hsame
  have hcandidate : (start.scoredTrial setting e 0).candidate = ⟨[.literal "1"]⟩ := by
    decide +kernel
  have hscore : (start.scoredTrial setting e 0).score = Fitness.infinity := by
    rw [score_scoredTrial, hcandidate]
    exact score_one rfl rfl (by decide)
  have hverdict : (start.step setting e).1 = .perfect :=
    (verdictBehind_eq_perfect_iff setting e start 0).mpr hscore
  have hreached : start.stepTimes setting 1 e = (start.step setting e).2 := by
    rw [stepTimes_succ, if_pos hverdict]
  have hflag := (step_accepts setting e start).flag_iff.mpr (Or.inr hverdict)
  have hfits : start.generation + 1 ≤ 2 := le_of_eq_of_le (Nat.zero_add 1) (by decide)
  have hresumes := resumes_of_start setting (rfl : start.perfect = false) hfits e
  have hmore := hresumes.overruns (by rw [hreached, hflag])
    (by rw [hreached, generation_step]; decide)
  exact absurd (congrArg LineageOutcome.generations hsame) hmore.ne'

end RegexInference.Lineage
