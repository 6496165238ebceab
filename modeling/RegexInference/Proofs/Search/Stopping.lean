import RegexInference.Proofs.Search.Outcomes

/-!
# Searches that end early

A search may stop at a perfect pattern, and it may be cancelled.  In both cases lineages are left
that take no generation.  Such a lineage never wins, and nothing beats a perfect one; so the answer
is that of the lineages that did run.
-/

namespace RegexInference

/-- Two reports agree on the winning pattern and on all that is said about it. -/
structure SearchReport.SameAnswer (a b : SearchReport) : Prop where
  pattern : a.pattern = b.pattern
  fitnessScore : a.fitnessScore = b.fitnessScore
  accuracy : a.accuracy = b.accuracy
  perfect : a.stats.perfect = b.stats.perfect

/-- A report tells of the same search as another one, with no more work done. -/
structure SearchReport.Shortens (short long : SearchReport) : Prop where
  answer : short.SameAnswer long
  lineages : short.stats.lineages = long.stats.lineages
  stopReason : short.stats.stopReason = long.stats.stopReason
  generations : short.stats.generations ≤ long.stats.generations
  evaluations : short.stats.evaluations ≤ long.stats.evaluations

/-- A report of a search that did nothing but score the empty pattern. -/
structure SearchReport.IsVoid (report : SearchReport) : Prop where
  pattern : report.pattern = ""
  fitnessScore : report.fitnessScore = -Fitness.infinity
  accuracy : report.accuracy = 0
  generations : report.stats.generations = 0
  evaluations : report.stats.evaluations = 1

variable {G V : Type} [Genotype G V]

/-! ## Idle lineages, and lineages held back -/

namespace LineageOutcome

theorem covers_better (best : G × Float) {r : LineageOutcome G}
    (hperfect : r.fitness = Fitness.infinity) (x : Float) : ¬ (better best r).2 < x := by
  unfold better
  by_cases hlt : r.fitness > best.2
  · rw [if_pos hlt, hperfect]
    exact Binary64.not_infinity_lt x
  · rw [if_neg hlt]
    intro hx
    have hbelow : best.2 < Fitness.infinity := Binary64.lt_infinity_of_lt hx
    exact hlt (hperfect ▸ hbelow)

theorem foldl_better_heldBack (solved : Bool) (results : List (LineageOutcome G))
    (best : G × Float) (hmarked : ∀ r ∈ results, r.Marked)
    (hsolved : solved = true → ∀ x : Float, ¬ best.2 < x) :
    (heldBack true solved results).foldl better best = results.foldl better best := by
  -- Once a perfect result was met nothing beats the best so far, so what is held back is no loss.
  induction results generalizing solved best with
  | nil => rfl
  | cons r results ih =>
      obtain ⟨hr, hresults⟩ := List.forall_mem_cons.mp hmarked
      cases solved with
      | true =>
          have hcovers := hsolved rfl
          rw [foldl_better_eq_self _ _ fun r _ => hcovers r.fitness,
            foldl_better_eq_self _ _ fun r _ => hcovers r.fitness]
      | false =>
          have hrest := ih r.perfect (better best r) hresults
            (fun hperfect => covers_better best (hr.mp hperfect))
          simpa [heldBack] using hrest

theorem winner_heldBack (stop : Bool) (results : List (LineageOutcome G))
    (hmarked : ∀ r ∈ results, r.Marked) :
    winner (heldBack stop false results) = winner results := by
  cases stop with
  | false => rw [heldBack_false]
  | true =>
      rw [winner_eq_foldl, winner_eq_foldl, foldl_better_heldBack false results _ hmarked]
      simp

theorem any_perfect_heldBack (stop solved : Bool) (results : List (LineageOutcome G)) :
    (solved || (heldBack stop solved results).any LineageOutcome.perfect) =
      (solved || results.any LineageOutcome.perfect) := by
  induction results generalizing solved with
  | nil => rfl
  | cons r results ih =>
      cases solved with
      | true => simp
      | false => simpa [heldBack] using ih r.perfect

theorem totalGenerations_heldBack_le (stop solved : Bool) (results : List (LineageOutcome G)) :
    totalGenerations (heldBack stop solved results) ≤ totalGenerations results := by
  induction results generalizing solved with
  | nil => rfl
  | cons r results ih =>
      have hshown : (if stop && solved then idle else r : LineageOutcome G).generations ≤
          r.generations := by
        split_ifs
        · exact Nat.zero_le _
        · rfl
      have hrest := ih (solved || (if stop && solved then idle else r : LineageOutcome G).perfect)
      simp only [heldBack, totalGenerations, List.map_cons, List.sum_cons] at hrest ⊢
      exact Nat.add_le_add hshown hrest

theorem heldBack_append_idle (stop solved : Bool) (results : List (LineageOutcome G)) (n : ℕ) :
    heldBack stop solved (results ++ List.replicate n idle) =
      heldBack stop solved results ++ List.replicate n idle := by
  induction results generalizing solved with
  | nil =>
      induction n generalizing solved with
      | zero => rfl
      | succ n ih => simpa [heldBack, List.replicate_succ] using ih _
  | cons r results ih => simp [heldBack, ih]

theorem winner_append_idle (results : List (LineageOutcome G)) (n : ℕ) :
    winner (results ++ List.replicate n idle) = winner results := by
  rw [winner_eq_foldl, winner_eq_foldl, List.foldl_append, foldl_better_eq_self]
  intro r hr
  rw [List.eq_of_mem_replicate hr]
  exact Binary64.not_lt_neg_infinity _

theorem totalGenerations_append_idle (results : List (LineageOutcome G)) (n : ℕ) :
    totalGenerations (results ++ List.replicate n idle) = totalGenerations results := by
  simp [totalGenerations, idle]

end LineageOutcome

namespace Search

open LineageOutcome

theorem sameAnswer_conclude (e : Evaluator) (cancelled cancelled' : Bool)
    {results results' : List (LineageOutcome G)} (hwinner : winner results = winner results') :
    (conclude (Ledger.ofResults e cancelled results)).SameAnswer
      (conclude (Ledger.ofResults e cancelled' results')) := by
  rw [conclude_ofResults, conclude_ofResults, hwinner]
  exact ⟨rfl, rfl, rfl, rfl⟩

theorem search_eq_conclude (s : Search) (problem : Problem) (seed : UInt64)
    (cancelAt : Option Moment) :
    (s.search G problem seed cancelAt).1 =
      conclude (Ledger.ofResults (s.evaluator problem) (Moment.hasCome cancelAt s.config.lineages 0)
        (heldBack s.config.stopOnPerfect false (s.outcomesAlone G problem seed cancelAt))) := by
  rw [← runLineages_eq_ofResults]
  rfl

section

variable {s : Search} {seed : UInt64} (hseed : s.config.randomSeed = some seed)
include hseed

theorem runUntil_sequence (hrepresentation : s.config.representation = .sequence)
    (problem : Problem) (entropy : UInt64) (cancelAt : Option Moment) :
    s.runUntil problem entropy cancelAt = s.search Sequence problem seed cancelAt := by
  unfold runUntil
  rw [hseed, hrepresentation]
  rfl

theorem runUntil_tree (hrepresentation : s.config.representation = .tree)
    (problem : Problem) (entropy : UInt64) (cancelAt : Option Moment) :
    s.runUntil problem entropy cancelAt = s.search SyntaxTree problem seed cancelAt := by
  unfold runUntil
  rw [hseed, hrepresentation]
  rfl

end

/-! ## Stopping at a perfect pattern -/

def withStop (s : Search) (stop : Bool) : Search :=
  { s with config := { s.config with stopOnPerfect := stop } }

theorem ofConfig_withStop {config : Config} {s : Search} (hconfig : ofConfig config = .ok s)
    (stop : Bool) : ofConfig { config with stopOnPerfect := stop } = .ok (s.withStop stop) := by
  obtain ⟨hvalid, hoperators, hrange, rfl⟩ := ofConfig_eq_ok_iff.mp hconfig
  exact ofConfig_eq_ok_iff.mpr ⟨hvalid, hoperators, hrange, rfl⟩

theorem marked_outcomesAlone (hempty : Genotype.toPattern (Genotype.empty : G) = "") (s : Search)
    (problem : Problem) (seed : UInt64) (cancelAt : Option Moment) :
    ∀ r ∈ s.outcomesAlone G problem seed cancelAt, r.Marked := by
  intro r hr
  obtain ⟨i, hi, rfl⟩ := List.mem_mapIdx.mp hr
  exact marked_outcomeAt hempty s _ _ _ _ _

theorem search_shortens (hempty : Genotype.toPattern (Genotype.empty : G) = "") (s : Search)
    (problem : Problem) (seed : UInt64) (cancelAt : Option Moment) :
    ((s.withStop true).search G problem seed cancelAt).1.Shortens
      ((s.withStop false).search G problem seed cancelAt).1 := by
  let alone := s.outcomesAlone G problem seed cancelAt
  have hquick : ((s.withStop true).search G problem seed cancelAt).1 =
      conclude (Ledger.ofResults (s.evaluator problem)
        (Moment.hasCome cancelAt s.config.lineages 0) (heldBack true false alone)) :=
    search_eq_conclude (s.withStop true) problem seed cancelAt
  have hpatient : ((s.withStop false).search G problem seed cancelAt).1 =
      conclude (Ledger.ofResults (s.evaluator problem)
        (Moment.hasCome cancelAt s.config.lineages 0) alone) := by
    have hnone := search_eq_conclude (G := G) (s.withStop false) problem seed cancelAt
    rw [show (s.withStop false).config.stopOnPerfect = false from rfl, heldBack_false] at hnone
    exact hnone
  have hwinner : winner (heldBack true false alone) = winner alone :=
    winner_heldBack true alone (marked_outcomesAlone hempty s problem seed cancelAt)
  have hany : (heldBack true false alone).any LineageOutcome.perfect =
      alone.any LineageOutcome.perfect := by
    simpa using any_perfect_heldBack true false alone
  have hle := totalGenerations_heldBack_le true false alone
  rw [hquick, hpatient]
  refine ⟨sameAnswer_conclude _ _ _ hwinner, ?_, ?_, ?_, ?_⟩
  · simp [conclude_ofResults, length_heldBack]
  · simp [conclude_ofResults, hany]
  · simpa [conclude_ofResults] using hle
  · simpa [conclude_ofResults] using hle

/-- Whether a search stops at a perfect pattern makes no difference to its answer, nor to why it
ended; stopping only saves generations. -/
theorem stopOnPerfect_shortens (config : Config) (s : Search) (hconfig : ofConfig config = .ok s)
    (hseed : config.randomSeed.isSome = true) :
    ∃ quick patient,
      ofConfig { config with stopOnPerfect := true } = .ok quick ∧
      ofConfig { config with stopOnPerfect := false } = .ok patient ∧
      ∀ (problem : Problem) (entropy entropy' : UInt64) (cancelAt : Option Moment),
        (quick.runUntil problem entropy cancelAt).1.Shortens
          (patient.runUntil problem entropy' cancelAt).1 := by
  refine ⟨s.withStop true, s.withStop false, ofConfig_withStop hconfig true,
    ofConfig_withStop hconfig false, ?_⟩
  obtain ⟨rfl, -⟩ := ofConfig_eq_ok hconfig
  obtain ⟨seed, hseed⟩ := Option.isSome_iff_exists.mp hseed
  have hquick : (s.withStop true).config.randomSeed = some seed := hseed
  have hpatient : (s.withStop false).config.randomSeed = some seed := hseed
  intro problem entropy entropy' cancelAt
  cases hrepresentation : s.config.representation with
  | sequence =>
      rw [runUntil_sequence hquick hrepresentation, runUntil_sequence hpatient hrepresentation]
      exact search_shortens rfl s problem seed cancelAt
  | tree =>
      rw [runUntil_tree hquick hrepresentation, runUntil_tree hpatient hrepresentation]
      exact search_shortens rfl s problem seed cancelAt

/-- Drifting searches over syntax trees stop at a perfect pattern without loss, also when they are
cancelled in the middle of their fourth lineage. -/
theorem drift_stopOnPerfect_shortens :
    ∃ quick patient,
      ofConfig
        { representation := .tree, policy := .drift, randomSeed := some 7
          stopOnPerfect := true } = .ok quick ∧
      ofConfig
        { representation := .tree, policy := .drift, randomSeed := some 7
          stopOnPerfect := false } = .ok patient ∧
      (quick.runUntil Problem.example 0 (some ⟨3, 20⟩)).1.Shortens
        (patient.runUntil Problem.example 1 (some ⟨3, 20⟩)).1 := by
  obtain ⟨s, hconfig⟩ := exists_ofConfig
    { representation := .tree, policy := .drift, randomSeed := some 7 } (by rfl)
  obtain ⟨quick, patient, hquick, hpatient, hshortens⟩ :=
    stopOnPerfect_shortens _ s hconfig rfl
  exact ⟨quick, patient, hquick, hpatient, hshortens Problem.example 0 1 (some ⟨3, 20⟩)⟩

/-! ## Cancelling -/

def withLineages (s : Search) (k : ℕ) : Search :=
  { s with config := { s.config with lineages := k } }

theorem ofConfig_withLineages {config : Config} {s : Search} (hconfig : ofConfig config = .ok s)
    {k : ℕ} (hk : k ≠ 0) : ofConfig { config with lineages := k } = .ok (s.withLineages k) := by
  obtain ⟨hvalid, hoperators, hrange, rfl⟩ := ofConfig_eq_ok_iff.mp hconfig
  have hsettings := Config.validate_eq_ok_iff.mp hvalid
  have hvalid' := Config.validate_eq_ok_iff.mpr (hsettings.withLineages hk)
  exact ofConfig_eq_ok_iff.mpr ⟨hvalid', hoperators, hrange, rfl⟩

theorem exists_seeds_add {σ : Type} [Random.Source σ] (k n : ℕ) (source : σ) :
    ∃ rest, seeds (k + n) source = seeds k source ++ rest ∧ rest.length = n := by
  induction k generalizing source with
  | zero => exact ⟨seeds n source, by rw [Nat.zero_add]; rfl, length_seeds n source⟩
  | succ k ih =>
      obtain ⟨rest, hrest, hlength⟩ := ih (Random.word64.run source).2
      refine ⟨rest, ?_, hlength⟩
      rw [Nat.succ_add]
      exact congrArg ((Random.word64.run source).1 :: ·) hrest

/-- A search that is cancelled behind its `k`-th lineage is one of `k` lineages, followed by idle
ones. -/
theorem outcomesAlone_cancelled (s : Search) (problem : Problem) (seed : UInt64) {k : ℕ}
    (hk : k ≤ s.config.lineages) :
    s.outcomesAlone G problem seed (some ⟨k, 0⟩) =
      (s.withLineages k).outcomesAlone G problem seed none ++
        List.replicate (s.config.lineages - k) idle := by
  obtain ⟨rest, hseeds, hlength⟩ := exists_seeds_add k (s.config.lineages - k)
    (Random.Stream.ofSeed seed)
  rw [Nat.add_sub_cancel' hk] at hseeds
  unfold outcomesAlone
  rw [hseeds, List.mapIdx_append]
  congr 1
  -- The first lineages are not cancelled, and those behind them before their first generation.
  · apply List.ext_getElem
    · simp [withLineages]
    · intro i hi hi'
      have hik : i < k := by simpa [length_seeds] using hi
      have hnever : Moment.hasCome (some ⟨k, 0⟩) i = Moment.hasCome none i := by
        funext asked
        simp [Moment.hasCome]
        omega
      simp only [List.getElem_mapIdx, outcomeAt, hnever]
      rfl
  · rw [← hlength]
    refine List.mapIdx_eq_replicate_iff.mpr fun i hi => ?_
    apply outcomeAt_of_hasCome
    have hbehind : 0 < i ∨ i = 0 := by omega
    simpa [Moment.hasCome, length_seeds] using hbehind

/-- Of two searches the first was to have `n` lineages but was cancelled behind `k`, and came to
the same as the second, which has these `k` lineages only. -/
structure Truncates (n k : ℕ) (cancelled short : SearchReport × List Progress) : Prop where
  answer : cancelled.1.SameAnswer short.1
  generations : cancelled.1.stats.generations = short.1.stats.generations
  evaluations : cancelled.1.stats.evaluations = short.1.stats.evaluations
  length_progress : short.2.length = k
  /-- Every lineage that was left reported that it found nothing. -/
  progress : cancelled.2.map Progress.bestFitness =
    short.2.map Progress.bestFitness ++ List.replicate (n - k) (-Fitness.infinity)

theorem map_bestFitness_search (s : Search) (problem : Problem) (seed : UInt64)
    (cancelAt : Option Moment) :
    (s.search G problem seed cancelAt).2.map Progress.bestFitness =
      (heldBack s.config.stopOnPerfect false (s.outcomesAlone G problem seed cancelAt)).map
        LineageOutcome.fitness := by
  rw [← outcomes_eq_heldBack]
  exact map_bestFitness_reports _ _

theorem search_truncates (s : Search) (problem : Problem) (seed : UInt64) {k : ℕ}
    (hk : k ≤ s.config.lineages) :
    Truncates s.config.lineages k (s.search G problem seed (some ⟨k, 0⟩))
      ((s.withLineages k).search G problem seed none) := by
  let idles : List (LineageOutcome G) := List.replicate (s.config.lineages - k) idle
  let shown := heldBack s.config.stopOnPerfect false
    ((s.withLineages k).outcomesAlone G problem seed none)
  have hheld : heldBack s.config.stopOnPerfect false
      (s.outcomesAlone G problem seed (some ⟨k, 0⟩)) = shown ++ idles := by
    rw [outcomesAlone_cancelled s problem seed hk, heldBack_append_idle]
  have hcancelled : (s.search G problem seed (some ⟨k, 0⟩)).1 =
      conclude (Ledger.ofResults (s.evaluator problem)
        (Moment.hasCome (some ⟨k, 0⟩) s.config.lineages 0) (shown ++ idles)) := by
    rw [search_eq_conclude, hheld]
  have hshort : ((s.withLineages k).search G problem seed none).1 =
      conclude (Ledger.ofResults (s.evaluator problem) false shown) :=
    search_eq_conclude (s.withLineages k) problem seed none
  have hgenerations : totalGenerations (shown ++ idles) = totalGenerations shown :=
    totalGenerations_append_idle shown _
  constructor
  · rw [hcancelled, hshort]
    exact sameAnswer_conclude _ _ _ (winner_append_idle shown _)
  · rw [hcancelled, hshort, conclude_ofResults, conclude_ofResults]
    exact hgenerations
  · rw [hcancelled, hshort, conclude_ofResults, conclude_ofResults]
    simpa using hgenerations
  · have hlength := congrArg List.length
      (map_bestFitness_search (G := G) (s.withLineages k) problem seed none)
    simpa [length_heldBack, outcomesAlone, length_seeds, withLineages] using hlength
  · rw [map_bestFitness_search, map_bestFitness_search, hheld, List.map_append,
      List.map_replicate]
    rfl

/-- A search that is cancelled before it begins is one of no lineages. -/
theorem search_isVoid (hempty : Genotype.toPattern (Genotype.empty : G) = "") (s : Search)
    (problem : Problem) (seed : UInt64) : (s.search G problem seed (some ⟨0, 0⟩)).1.IsVoid := by
  have htruncates := search_truncates (G := G) s problem seed (Nat.zero_le _)
  have hpattern : ((s.withLineages 0).search G problem seed none).1.pattern = "" := hempty
  constructor
  · rw [htruncates.answer.pattern, hpattern]
  · rw [htruncates.answer.fitnessScore]
    exact (fitnessScore_conclude _).trans (hpattern ▸ score_empty _ _)
  · rw [htruncates.answer.accuracy]
    exact (accuracy_conclude _).trans (hpattern ▸ accuracy_empty _ _)
  · rw [htruncates.generations]
    rfl
  · rw [htruncates.evaluations]
    rfl

/-- Cancelling a search when `k` of its lineages have reported comes to the same as running `k`
lineages in the first place, and cancelling it before it begins leaves it with nothing. -/
theorem cancel_truncates (config : Config) (s : Search) (hconfig : ofConfig config = .ok s)
    (hseed : config.randomSeed.isSome = true) (problem : Problem) (entropy : UInt64) :
    (∀ k, 1 ≤ k → k ≤ config.lineages →
      ∃ short, ofConfig { config with lineages := k } = .ok short ∧
        ∀ entropy', Truncates config.lineages k (s.run problem entropy (some k))
          (short.run problem entropy' none)) ∧
    (s.run problem entropy (some 0)).1.IsVoid := by
  obtain ⟨rfl, -⟩ := ofConfig_eq_ok hconfig
  obtain ⟨seed, hseed⟩ := Option.isSome_iff_exists.mp hseed
  constructor
  · intro k hpos hk
    refine ⟨s.withLineages k, ofConfig_withLineages hconfig (by omega), ?_⟩
    have hshort : (s.withLineages k).config.randomSeed = some seed := hseed
    intro entropy'
    unfold run
    cases hrepresentation : s.config.representation with
    | sequence =>
        rw [runUntil_sequence hseed hrepresentation, runUntil_sequence hshort hrepresentation]
        exact search_truncates s problem seed hk
    | tree =>
        rw [runUntil_tree hseed hrepresentation, runUntil_tree hshort hrepresentation]
        exact search_truncates s problem seed hk
  · unfold run
    cases hrepresentation : s.config.representation with
    | sequence =>
        rw [runUntil_sequence hseed hrepresentation]
        exact search_isVoid rfl s problem seed
    | tree =>
        rw [runUntil_tree hseed hrepresentation]
        exact search_isVoid rfl s problem seed

/-- A search of five lineages that is cancelled behind the second one. -/
theorem cancel_truncates_second :
    ∃ s short,
      ofConfig { lineages := 5, randomSeed := some 7 } = .ok s ∧
      ofConfig { lineages := 2, randomSeed := some 7 } = .ok short ∧
      Truncates 5 2 (s.run Problem.example 0 (some 2)) (short.run Problem.example 1 none) ∧
      (s.run Problem.example 0 (some 0)).1.IsVoid := by
  obtain ⟨s, hconfig⟩ := exists_ofConfig { lineages := 5, randomSeed := some 7 } (by rfl)
  obtain ⟨htruncates, hvoid⟩ := cancel_truncates _ s hconfig rfl Problem.example 0
  obtain ⟨short, hshort, hrun⟩ := htruncates 2 (by decide) (by decide)
  exact ⟨s, short, hconfig, hshort, hrun 1, hvoid⟩

end Search

end RegexInference
