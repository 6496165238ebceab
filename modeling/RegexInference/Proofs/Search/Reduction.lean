import RegexInference.Proofs.Search.Trials
import RegexInference.Proofs.Search.Winner

/-!
# Winners among any results

The reduction of results asks nothing of their fitness: it may be no number, infinite, or a zero of
either sign.  The winner is the first result that is above minus infinity and that no other result
beats.  Results without a number, or at minus infinity, neither win nor stand in the way, and of two
lists that are joined the second one wins only if its winner is strictly better.
-/

namespace RegexInference

variable {G V : Type} [Genotype G V]

namespace LineageOutcome

/-- The winner with its fitness, which is minus infinity if nobody wins. -/
def winning (results : List (LineageOutcome G)) : G × Float :=
  results.foldl better (Genotype.empty, -Fitness.infinity)

/-- A result is above minus infinity, and none of these is above it. -/
def Unbeaten (results : List (LineageOutcome G)) (r : LineageOutcome G) : Prop :=
  -Fitness.infinity < r.fitness ∧ ∀ q ∈ results, ¬ r.fitness < q.fitness

/-- Who wins among some results, and with which fitness: the first that is unbeaten, or the empty
candidate if all are as low as can be. -/
inductive Wins (results : List (LineageOutcome G)) : G → Float → Prop
  | nobody (hlow : ∀ r ∈ results, ¬ -Fitness.infinity < r.fitness) :
      Wins results Genotype.empty (-Fitness.infinity)
  | first (before : List (LineageOutcome G)) (r : LineageOutcome G)
      (after : List (LineageOutcome G)) (hplace : results = before ++ r :: after)
      (hunbeaten : Unbeaten results r) (hbefore : ∀ q ∈ before, ¬ Unbeaten results q) :
      Wins results r.best r.fitness

/-! ## One result after the other -/

/-- A result as a trial of the search. -/
def scored (r : LineageOutcome G) : ScoredTrial G := ⟨r.best, r.fitness⟩

theorem winning_concat (results : List (LineageOutcome G)) (r : LineageOutcome G) :
    winning (results ++ [r]) = better (winning results) r := by
  simp [winning, List.foldl_append]

theorem better_retains {results : List (LineageOutcome G)} {best : G × Float}
    (r : LineageOutcome G) (h : Retains (results.map scored) best.1 best.2) :
    Retains ((results ++ [r]).map scored) (better best r).1 (better best r).2 := by
  rw [List.map_append, List.map_singleton]
  unfold better
  by_cases hlt : r.fitness > best.2
  · rw [if_pos hlt]
    exact h.replace (t := scored r) hlt
  · rw [if_neg hlt]
    exact h.keep (t := scored r) hlt

/-- What the reduction retains of the results, be their fitness what it may. -/
theorem winning_retains (results : List (LineageOutcome G)) :
    Retains (results.map scored) (winning results).1 (winning results).2 := by
  induction results using List.reverseRecOn with
  | nil => exact .nothing (by simp) rfl rfl
  | append_singleton results r ih =>
      rw [winning_concat]
      exact better_retains r ih

theorem isNaN_winning (results : List (LineageOutcome G)) :
    (winning results).2.isNaN = false :=
  (winning_retains results).isNumber

/-- The first of the greatest is the first that is unbeaten. -/
theorem wins_of_firstGreatest {results : List (LineageOutcome G)} {t : ScoredTrial G}
    (hfirst : FirstGreatest ScoredTrial.score (results.map scored) t)
    (habove : -Fitness.infinity < t.score) : Wins results t.candidate t.score := by
  have hle := fun q hq => hfirst.le (y := scored q) (List.mem_map_of_mem hq)
  obtain ⟨hnumber, before, rest, hsplit, hbefore, -⟩ := hfirst
  obtain ⟨earlier, later, hplace, rfl, hlater⟩ := List.map_eq_append_iff.mp hsplit
  obtain ⟨r, after, rfl, rfl, rfl⟩ := List.map_eq_cons_iff.mp hlater
  refine .first earlier r after hplace ⟨habove, fun q hq hlt => ?_⟩ fun q hq hunbeaten => ?_
  · obtain ⟨-, hnumber'⟩ := Binary64.isNaN_eq_false_of_lt hlt
    exact Binary64.not_lt_of_le (hle q hq hnumber') hlt
  · obtain ⟨-, hnumber'⟩ := Binary64.isNaN_eq_false_of_lt hunbeaten.1
    have hlt : q.fitness < r.fitness := hbefore (scored q) (List.mem_map_of_mem hq) hnumber'
    exact hunbeaten.2 r (by simp [hplace]) hlt

theorem wins_winning (results : List (LineageOutcome G)) :
    Wins results (winner results) (winning results).2 := by
  rw [winner_eq_foldl]
  change Wins results (winning results).1 (winning results).2
  cases winning_retains results with
  | nothing hlow hbest hfitness =>
      rw [hbest, hfitness]
      exact .nobody fun r hr => hlow (scored r) (List.mem_map_of_mem hr)
  | trial t hfirst habove hbest hfitness =>
      rw [hbest, hfitness]
      exact wins_of_firstGreatest hfirst habove

/-! ## Lists put together -/

/-- A reduction that begins with a best so far keeps it, unless the winner of the results is
better. -/
theorem foldl_better_eq (results : List (LineageOutcome G)) {best : G × Float}
    (hbest : best.2.isNaN = false) :
    results.foldl better best =
      if best.2 < (winning results).2 then winning results else best := by
  induction results using List.reverseRecOn with
  | nil =>
      have hlow : ¬ best.2 < (winning ([] : List (LineageOutcome G))).2 :=
        Binary64.not_lt_neg_infinity best.2
      rw [if_neg hlow, List.foldl_nil]
  | append_singleton results r ih =>
      rw [List.foldl_append, List.foldl_cons, List.foldl_nil, ih, winning_concat]
      by_cases hwins : best.2 < (winning results).2
      · rw [if_pos hwins]
        unfold better
        by_cases hlt : r.fitness > (winning results).2
        · rw [if_pos hlt, if_pos (Binary64.lt_trans hwins hlt)]
        · rw [if_neg hlt, if_pos hwins]
      · rw [if_neg hwins]
        have hle : (winning results).2 ≤ best.2 :=
          Binary64.le_of_not_lt hbest (isNaN_winning results) hwins
        unfold better
        by_cases hlt : r.fitness > (winning results).2
        · rw [if_pos hlt]
        · have hnot : ¬ r.fitness > best.2 := fun hgt =>
            hlt (Binary64.lt_of_le_of_lt (isNaN_winning results) hle hgt)
          rw [if_neg hlt, if_neg hwins, if_neg hnot]

theorem winner_eq_winning (results : List (LineageOutcome G)) :
    winner results = (winning results).1 := rfl

/-- The winner of any results is the first that is above minus infinity and unbeaten.  Results
without a number and results at minus infinity may be put in or left out anywhere.  Of two lists the
second one decides if its winner is strictly better, and else the first one. -/
theorem winner_wins :
    (∀ results : List (LineageOutcome G), Wins results (winner results) (winning results).2) ∧
    (∀ before extra after : List (LineageOutcome G),
      (∀ r ∈ extra, r.fitness.isNaN = true ∨ r.fitness = -Fitness.infinity) →
        winner (before ++ extra ++ after) = winner (before ++ after)) ∧
    ∀ first second : List (LineageOutcome G),
      winner (first ++ second) =
        if (winning first).2 < (winning second).2 then winner second else winner first := by
  refine ⟨wins_winning, fun before extra after hextra => ?_, fun first second => ?_⟩
  · simp only [winner_eq_foldl, List.foldl_append]
    rw [foldl_better_eq_self extra]
    intro r hr hlt
    rcases hextra r hr with hnan | hlow
    · rw [(Binary64.isNaN_eq_false_of_lt hlt).2] at hnan
      cases hnan
    · exact Binary64.not_lt_neg_infinity _ (hlow ▸ hlt)
  · have hfold : winning (first ++ second) = second.foldl better (winning first) :=
      List.foldl_append
    rw [winner_eq_winning, hfold, foldl_better_eq second (isNaN_winning first)]
    split_ifs with hlt
    · rfl
    · rfl

/-- Of two zeros the earlier one wins, whatever its sign, and what lies between them does not
matter. -/
theorem winner_zeros :
    (∀ r ∈ [(⟨⟨[]⟩, 0.0 / 0.0, 1, false⟩ : LineageOutcome Sequence),
        ⟨⟨[]⟩, -Fitness.infinity, 1, false⟩],
      r.fitness.isNaN = true ∨ r.fitness = -Fitness.infinity) ∧
    winner ([⟨⟨[.literal "a"]⟩, -0.0, 1, false⟩] ++
        [⟨⟨[]⟩, 0.0 / 0.0, 1, false⟩, ⟨⟨[]⟩, -Fitness.infinity, 1, false⟩] ++
        [(⟨⟨[.literal "b"]⟩, 0.0, 1, false⟩ : LineageOutcome Sequence)]) =
      ⟨[.literal "a"]⟩ := by
  have hextra : ∀ r ∈ [(⟨⟨[]⟩, 0.0 / 0.0, 1, false⟩ : LineageOutcome Sequence),
      ⟨⟨[]⟩, -Fitness.infinity, 1, false⟩],
      r.fitness.isNaN = true ∨ r.fitness = -Fitness.infinity := by
    intro r hr
    rcases List.mem_cons.mp hr with rfl | hr
    · exact Or.inl rfl
    · obtain rfl := List.mem_singleton.mp hr
      exact Or.inr rfl
  refine ⟨hextra, ?_⟩
  rw [winner_wins.2.1 _ _ _ hextra]
  rfl

end LineageOutcome

end RegexInference
