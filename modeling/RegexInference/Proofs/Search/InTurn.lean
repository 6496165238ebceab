import RegexInference.Proofs.Search.Interleaving

/-!
# One lineage after the other

Among the schedules of lineages side by side is the one by which each lineage ends before the next
one begins.  Lineages with this schedule are the lineages of the search as it is run: they come to
the same answer, with the reports in the same order, also when a perfect pattern stops those behind
it.  Where one does, other schedules may come to another answer.
-/

namespace RegexInference

namespace Search

variable {G V : Type} [Genotype G V]

/-- A schedule by which each of `lineages` ends before the next one begins.  There are `ended` in
front of them. -/
def inTurn (budget ended lineages : ℕ) : List Event :=
  (List.range' ended lineages).flatMap fun i => List.replicate (budget + 1) (.turn i)

namespace Pool

variable (pool : Pool G) (total i : ℕ) {w : Worker G}

end Pool

section

variable (s : Search) (setting : LineageSetting V) (pool : Pool G) {i : ℕ} {w : Worker G}

end

/-! ## All lineages -/

/-- The lineages that have ended left the same behind in a pool as in a ledger, and those of `seeds`
have not begun. -/
structure Pool.Follows (total : ℕ) (ledger : Ledger G) (seeds : List UInt64) (pool : Pool G) :
    Prop where
  evaluator : pool.evaluator = ledger.evaluator
  solved : pool.solved = ledger.solved
  uncancelled : pool.cancelled = false ∧ ledger.cancelled = false
  progress : pool.progress = reports total ledger
  workers : ∃ ended : List (Worker G),
    pool.workers = ended ++ seeds.map Worker.waiting ∧
    (∀ w ∈ ended, w.phase = .ended) ∧ ended.map Worker.outcome = ledger.results.reverse

theorem Pool.Follows.answer? {total : ℕ} {ledger : Ledger G} {pool : Pool G}
    (hfollows : pool.Follows total ledger []) :
    pool.answer? = some (conclude ledger, reports total ledger) := by
  obtain ⟨hevaluator, hsolved, ⟨hcancelled, hcancelled'⟩, hprogress, ended, hworkers, hended,
    hresults⟩ := hfollows
  rw [List.map_nil, List.append_nil] at hworkers
  have hledger : pool.ledger = ledger := by
    unfold Pool.ledger
    rw [hworkers, hresults, List.reverse_reverse, hevaluator, hsolved, hcancelled, ← hcancelled']
  unfold Pool.answer?
  rw [if_pos (by simpa [hworkers] using hended), hledger, hprogress]

end Search

end RegexInference
