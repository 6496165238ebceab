import RegexInference.Proofs.Search.Budget

/-!
# What a report says about the course of a search

A report tells why the search ended and how much work it did.  Both follow from the results of its
lineages, and from whether it was cancelled in time.  The reason agrees with the score: a search
that was not cancelled ends with a perfect pattern, or every lineage has used up its budget.  The
counts agree with each other: every generation takes one score, and the winner one more.
-/

namespace RegexInference

/-! ## When a search is cancelled -/

/-- The moments at which a search of so many lineages is cancelled before it is over. -/
inductive Moment.IsWithin (lineages : ℕ) : Moment → Prop where
  /-- Before the search begins. -/
  | start : IsWithin lineages ⟨0, 0⟩
  /-- When a lineage reports that it has ended. -/
  | report {k : ℕ} (hpos : 1 ≤ k) (hk : k ≤ lineages) : IsWithin lineages ⟨k, 0⟩
  /-- While a lineage runs. -/
  | running {k asked : ℕ} (hk : k < lineages) (hasked : 1 ≤ asked) : IsWithin lineages ⟨k, asked⟩

namespace Moment

theorem isWithin_iff {lineages : ℕ} {m : Moment} :
    m.IsWithin lineages ↔ m.ended < lineages ∨ m.ended = lineages ∧ m.asked = 0 := by
  constructor
  · intro h
    cases h with
    | start => exact (Nat.eq_zero_or_pos lineages).symm.imp id fun hzero => ⟨hzero.symm, rfl⟩
    | report hpos hk => exact (Nat.lt_or_eq_of_le hk).imp id fun hlast => ⟨hlast, rfl⟩
    | running hk hasked => exact Or.inl hk
  · obtain ⟨k, asked⟩ := m
    intro h
    cases asked with
    | succ asked =>
        have hk : k < lineages := h.resolve_right fun hlast => Nat.succ_ne_zero asked hlast.2
        exact .running hk (Nat.le_add_left 1 asked)
    | zero =>
        cases k with
        | zero => exact .start
        | succ k =>
            have hk : k + 1 ≤ lineages := h.elim Nat.le_of_lt fun hlast => hlast.1.le
            exact .report (Nat.le_add_left 1 k) hk

/-- A search is over with the report of its last lineage. -/
theorem hasCome_iff_isWithin {cancelAt : Option Moment} {lineages : ℕ} :
    hasCome cancelAt lineages 0 = true ↔ ∃ m, cancelAt = some m ∧ m.IsWithin lineages := by
  cases cancelAt with
  | none => simp [hasCome]
  | some m => simp [hasCome, isWithin_iff]

/-- What has come stays. -/
theorem hasCome_of_lt {cancelAt : Option Moment} {ended later asked : ℕ} (hlt : ended < later)
    (hcome : hasCome cancelAt ended asked = true) : hasCome cancelAt later 0 = true := by
  cases cancelAt with
  | none => cases hcome
  | some m =>
      simp only [hasCome, Option.any_some, Bool.or_eq_true, Bool.and_eq_true, beq_iff_eq,
        decide_eq_true_eq] at hcome ⊢
      omega

end Moment

variable {G V : Type} [Genotype G V]

/-! ## Results that are held back -/

namespace LineageOutcome

theorem heldBack_of_plain (stop : Bool) (results : List (LineageOutcome G))
    (hplain : ∀ r ∈ results, r.perfect = false) : heldBack stop false results = results := by
  induction results with
  | nil => rfl
  | cons r results ih =>
      obtain ⟨hr, hresults⟩ := List.forall_mem_cons.mp hplain
      simp [heldBack, hr, ih hresults]

theorem totalGenerations_le (results : List (LineageOutcome G)) {budget : ℕ}
    (hle : ∀ r ∈ results, r.generations ≤ budget) :
    totalGenerations results ≤ results.length * budget := by
  have hsum := List.sum_le_card_nsmul (results.map generations) budget
    (List.forall_mem_map.mpr hle)
  simpa [totalGenerations] using hsum

theorem totalGenerations_eq (results : List (LineageOutcome G)) {budget : ℕ}
    (heq : ∀ r ∈ results, r.generations = budget) :
    totalGenerations results = results.length * budget := by
  have hsum := List.sum_eq_card_nsmul (results.map generations) budget
    (List.forall_mem_map.mpr heq)
  simpa [totalGenerations] using hsum

end LineageOutcome

namespace Search

open LineageOutcome

/-! ## Why a search ended -/

/-- Why a search with these results ended, by its report. -/
structure EndsAs (config : Config) (cancelAt : Option Moment) (results : List (LineageOutcome G))
    (report : SearchReport) : Prop where
  perfect : report.stats.perfect = true ↔ ∃ r ∈ results, r.perfect = true
  fitnessScore : report.stats.perfect = true ↔ report.fitnessScore = Fitness.infinity
  cancelled : report.stats.stopReason = .cancelled ↔
    ∃ m, cancelAt = some m ∧ m.IsWithin config.lineages
  perfectMatch : report.stats.stopReason = .perfectMatch ↔
    report.stats.stopReason ≠ .cancelled ∧ report.stats.perfect = true
  completed : report.stats.stopReason = .completed ↔
    report.stats.stopReason ≠ .cancelled ∧ report.stats.perfect = false
  /-- A completed search has left no lineage any budget. -/
  exhausted : report.stats.stopReason = .completed →
    (∀ r ∈ results, r.generations = config.generationsPerLineage) ∧
      report.stats.generations = config.lineages * config.generationsPerLineage

theorem length_outcomesAlone (s : Search) (problem : Problem) (seed : UInt64)
    (cancelAt : Option Moment) :
    (s.outcomesAlone G problem seed cancelAt).length = s.config.lineages := by
  unfold outcomesAlone
  rw [List.length_mapIdx, length_seeds]

theorem generations_search (s : Search) (problem : Problem) (seed : UInt64)
    (cancelAt : Option Moment) :
    (s.search G problem seed cancelAt).1.stats.generations =
      totalGenerations (s.outcomes G problem seed cancelAt) := by
  rw [search_eq_conclude, conclude_ofResults, outcomes_eq_heldBack]

theorem stopReason_search (s : Search) (problem : Problem) (seed : UInt64)
    (cancelAt : Option Moment) :
    (s.search G problem seed cancelAt).1.stats.stopReason =
      if Moment.hasCome cancelAt s.config.lineages 0 then .cancelled
      else if (s.outcomes G problem seed cancelAt).any LineageOutcome.perfect then .perfectMatch
      else .completed := by
  rw [search_eq_conclude, conclude_ofResults, outcomes_eq_heldBack]

theorem perfect_search_iff (s : Search) (problem : Problem) (seed : UInt64)
    (cancelAt : Option Moment) :
    (s.search G problem seed cancelAt).1.stats.perfect = true ↔
      (s.search G problem seed cancelAt).1.fitnessScore = Fitness.infinity :=
  Binary64.isPerfect_iff

theorem any_perfect_outcomes (s : Search) (problem : Problem) (seed : UInt64)
    (cancelAt : Option Moment) :
    (s.outcomes G problem seed cancelAt).any LineageOutcome.perfect =
      (s.outcomesAlone G problem seed cancelAt).any LineageOutcome.perfect := by
  have hany := any_perfect_heldBack s.config.stopOnPerfect false
    (s.outcomesAlone G problem seed cancelAt)
  rwa [Bool.false_or, Bool.false_or, ← outcomes_eq_heldBack] at hany

/-- The score is that of a perfect classifier exactly if some lineage has ended with one. -/
theorem any_perfect_iff_fitnessScore (hempty : Genotype.toPattern (Genotype.empty : G) = "")
    (s : Search) (hlineages : s.config.lineages ≠ 0) (problem : Problem) (seed : UInt64)
    (cancelAt : Option Moment) :
    (s.outcomes G problem seed cancelAt).any LineageOutcome.perfect = true ↔
      (s.search G problem seed cancelAt).1.fitnessScore = Fitness.infinity := by
  have hmarked := marked_outcomesAlone hempty s problem seed cancelAt
  have hbest := fitnessScore_isBest hempty s hlineages problem seed cancelAt
  obtain ⟨winner, hwinner, hscore⟩ := hbest.attained
  rw [any_perfect_outcomes, List.any_eq_true]
  constructor
  · rintro ⟨r, hr, hperfect⟩
    have hle := hbest.greatest r hr
    rw [(hmarked r hr).mp hperfect, ← hscore] at hle
    rw [← hscore]
    exact Binary64.eq_infinity_of_le
      (isNaN_outcomesAlone hempty s problem seed cancelAt winner hwinner) hle
  · intro hinfinity
    exact ⟨winner, hwinner, (hmarked winner hwinner).mpr (hscore.trans hinfinity)⟩

/-- When nothing stops the lineages of a search, each of them uses up its budget. -/
theorem generations_of_undisturbed (s : Search) (problem : Problem) (seed : UInt64)
    {cancelAt : Option Moment} (hcome : Moment.hasCome cancelAt s.config.lineages 0 = false)
    (hplain : (s.outcomes G problem seed cancelAt).any LineageOutcome.perfect = false) :
    ∀ r ∈ s.outcomes G problem seed cancelAt, r.generations = s.config.generationsPerLineage := by
  rw [any_perfect_outcomes] at hplain
  have hplain' : ∀ r ∈ s.outcomesAlone G problem seed cancelAt, r.perfect = false := by
    simpa using hplain
  rw [outcomes_eq_heldBack, heldBack_of_plain _ _ hplain']
  intro r hr
  have hperfect := hplain' r hr
  obtain ⟨i, hi, rfl⟩ := List.mem_mapIdx.mp hr
  rw [length_seeds] at hi
  refine Lineage.generation_run_eq _ _ (fun asked => ?_) _ _ _ hperfect
  by_contra hcancelled
  rw [Bool.not_eq_false] at hcancelled
  rw [Moment.hasCome_of_lt hi hcancelled] at hcome
  cases hcome

theorem search_endsAs (hempty : Genotype.toPattern (Genotype.empty : G) = "") (s : Search)
    (hlineages : s.config.lineages ≠ 0) (problem : Problem) (seed : UInt64)
    (cancelAt : Option Moment) :
    EndsAs s.config cancelAt (s.outcomes G problem seed cancelAt)
      (s.search G problem seed cancelAt).1 := by
  have hscore := any_perfect_iff_fitnessScore hempty s hlineages problem seed cancelAt
  have hperfect := perfect_search_iff (G := G) s problem seed cancelAt
  have hreason := stopReason_search (G := G) s problem seed cancelAt
  have hany := hperfect.trans hscore.symm
  constructor
  · rw [hany, List.any_eq_true]
  · exact hperfect
  · rw [hreason, ← Moment.hasCome_iff_isWithin]
    split_ifs with hcome hfound
    · simp [hcome]
    · simp [hcome]
    · simp [hcome]
  · rw [hreason, hany]
    split_ifs with hcome hfound
    · simp
    · simp [hfound]
    · simp [hfound]
  · rw [hreason, ← Bool.not_eq_true, hany]
    split_ifs with hcome hfound
    · simp
    · simp [hfound]
    · simp [hfound]
  · intro hcompleted
    rw [hreason] at hcompleted
    obtain ⟨hcome, hplain⟩ : Moment.hasCome cancelAt s.config.lineages 0 = false ∧
        (s.outcomes G problem seed cancelAt).any LineageOutcome.perfect = false := by
      split_ifs at hcompleted with hcome hfound
      exact ⟨Bool.eq_false_of_not_eq_true hcome, Bool.eq_false_of_not_eq_true hfound⟩
    have hall := generations_of_undisturbed s problem seed hcome hplain
    refine ⟨hall, ?_⟩
    rw [generations_search, totalGenerations_eq _ hall, length_outcomes]

/-- Whatever the seed and whenever it is cancelled, a search tells rightly why it ended. -/
theorem runUntil_endsAs (config : Config) (s : Search) (hconfig : ofConfig config = .ok s)
    (problem : Problem) (entropy : UInt64) (cancelAt : Option Moment) :
    let seed := config.randomSeed.getD entropy
    let report := (s.runUntil problem entropy cancelAt).1
    match config.representation with
    | .sequence => EndsAs config cancelAt (s.outcomes Sequence problem seed cancelAt) report
    | .tree => EndsAs config cancelAt (s.outcomes SyntaxTree problem seed cancelAt) report := by
  obtain ⟨rfl, hlineages⟩ := ofConfig_eq_ok hconfig
  intro seed report
  unfold report runUntil
  cases s.config.representation with
  | sequence => exact search_endsAs rfl s hlineages problem seed cancelAt
  | tree => exact search_endsAs rfl s hlineages problem seed cancelAt

/-- A search that is cancelled while its fourth lineage runs. -/
theorem cancelled_drift_endsAs :
    ∃ s, ofConfig { representation := .tree, policy := .drift } = .ok s ∧
      EndsAs { representation := .tree, policy := .drift } (some ⟨3, 20⟩)
        (s.outcomes SyntaxTree Problem.example 7 (some ⟨3, 20⟩))
        (s.runUntil Problem.example 7 (some ⟨3, 20⟩)).1 := by
  obtain ⟨s, hconfig⟩ := exists_ofConfig { representation := .tree, policy := .drift }
    (by rfl)
  exact ⟨s, hconfig, runUntil_endsAs _ s hconfig Problem.example 7 (some ⟨3, 20⟩)⟩

/-! ## How much work a search did -/

/-- What a report and the progress before it say about the work of a search adds up. -/
structure AddsUp (config : Config) (report : SearchReport) (progress : List Progress) : Prop where
  lineages : report.stats.lineages = config.lineages
  completed : progress.map Progress.completed = List.range' 1 config.lineages
  total : ∀ p ∈ progress, p.total = config.lineages
  evaluations : report.stats.evaluations = report.stats.generations + 1
  generations_le : report.stats.generations ≤ config.lineages * config.generationsPerLineage

theorem map_completed_reports (total : ℕ) (ledger : Ledger G) :
    (reports total ledger).map Progress.completed = List.range' 1 ledger.results.length := by
  unfold reports
  apply List.ext_getElem
  · simp
  · intro i hi hi'
    simp only [List.getElem_map, List.getElem_mapIdx, List.getElem_range']
    omega

theorem total_of_mem_reports {total : ℕ} {ledger : Ledger G} :
    ∀ p ∈ reports total ledger, p.total = total := by
  intro p hp
  obtain ⟨i, hi, rfl⟩ := List.mem_mapIdx.mp hp
  rfl

theorem generations_le_of_mem_outcomesAlone (s : Search) (problem : Problem) (seed : UInt64)
    (cancelAt : Option Moment) :
    ∀ r ∈ s.outcomesAlone G problem seed cancelAt,
      r.generations ≤ s.config.generationsPerLineage := by
  intro r hr
  obtain ⟨i, hi, rfl⟩ := List.mem_mapIdx.mp hr
  exact Lineage.generation_run_le _ _ s.config.generationsPerLineage _ _

theorem search_addsUp (s : Search) (problem : Problem) (seed : UInt64)
    (cancelAt : Option Moment) :
    AddsUp s.config (s.search G problem seed cancelAt).1 (s.search G problem seed cancelAt).2 := by
  let alone := s.outcomesAlone G problem seed cancelAt
  have hlength : alone.length = s.config.lineages :=
    length_outcomesAlone s problem seed cancelAt
  constructor
  · rw [search_eq_conclude, conclude_ofResults]
    exact (length_heldBack _ _ _).trans hlength
  · refine (map_completed_reports _ _).trans ?_
    rw [length_runLineages]
  · exact total_of_mem_reports
  · rw [search_eq_conclude, conclude_ofResults]
    exact congrArg (· + 1) (Nat.zero_add _)
  · rw [generations_search, outcomes_eq_heldBack]
    calc
      totalGenerations (heldBack s.config.stopOnPerfect false alone) ≤ totalGenerations alone :=
        totalGenerations_heldBack_le _ _ _
      _ ≤ alone.length * s.config.generationsPerLineage :=
        totalGenerations_le _ (generations_le_of_mem_outcomesAlone s problem seed cancelAt)
      _ = s.config.lineages * s.config.generationsPerLineage := by rw [hlength]

/-- Whatever the seed and whenever it is cancelled, the counts of a search add up. -/
theorem runUntil_addsUp (config : Config) (s : Search) (hconfig : ofConfig config = .ok s)
    (problem : Problem) (entropy : UInt64) (cancelAt : Option Moment) :
    AddsUp config (s.runUntil problem entropy cancelAt).1
      (s.runUntil problem entropy cancelAt).2 := by
  obtain ⟨rfl, -⟩ := ofConfig_eq_ok hconfig
  unfold runUntil
  cases s.config.representation with
  | sequence => exact search_addsUp s problem _ cancelAt
  | tree => exact search_addsUp s problem _ cancelAt

/-- The counts of a search that is cancelled while its fourth lineage runs. -/
theorem cancelled_drift_addsUp :
    ∃ s, ofConfig { representation := .tree, policy := .drift } = .ok s ∧
      AddsUp { representation := .tree, policy := .drift }
        (s.runUntil Problem.example 7 (some ⟨3, 20⟩)).1
        (s.runUntil Problem.example 7 (some ⟨3, 20⟩)).2 := by
  obtain ⟨s, hconfig⟩ := exists_ofConfig { representation := .tree, policy := .drift }
    (by rfl)
  exact ⟨s, hconfig, runUntil_addsUp _ s hconfig Problem.example 7 (some ⟨3, 20⟩)⟩

end Search

end RegexInference
