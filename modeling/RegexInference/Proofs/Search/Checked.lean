import RegexInference.Proofs.Genotype.Checked
import RegexInference.Proofs.Search.Winner

/-!
# Searches with every bound checked

Lineages and searches once more, over the checked mutations, and with the range of mutation counts
as the configuration has it, which may be empty.  A search that could be set up has a range that is
not, and then no check fails in the whole run: the checked search ends without a fault, and in the
report that the search itself gives.
-/

namespace RegexInference

open RegexInference.Random

/-! ## Lineages -/

/-- The setting of a lineage before anything is known of the range of mutation counts. -/
structure RawSetting (V : Type) where
  vocabulary : V
  operators : OperatorWheel
  mutations : ℕ × ℕ
  policy : Policy

/-- The setting with a range that is not empty. -/
def RawSetting.withRange {V : Type} (raw : RawSetting V)
    (h : raw.mutations.1 ≤ raw.mutations.2) : LineageSetting V :=
  { raw with mutations := ⟨raw.mutations.1, raw.mutations.2, h⟩ }

namespace Lineage

variable {σ G V : Type} [Source σ] [Genotype G V] [CheckedGenotype G]

def checkedTrial (raw : RawSetting V) (l : Lineage σ G) : Except Fault (G × σ) :=
  (do
    let count ← CheckedDraw.between raw.mutations.1 raw.mutations.2
    CheckedGenotype.checkedMutateTimes raw.operators raw.vocabulary count (l.base raw.policy)
    : CheckedDraw σ G).run l.source

def checkedStep (raw : RawSetting V) (e : Evaluator) (l : Lineage σ G) :
    Except Fault (Verdict × Lineage σ G × Evaluator) := do
  let (trial, source) ← l.checkedTrial raw
  let (fitness, e) := e.score (Genotype.toPattern trial)
  let (outcome, l) := l.accept raw.policy trial fitness source
  return (outcome, l, e)

def checkedRunFor (raw : RawSetting V) (halt : ℕ → Bool) :
    (remaining asked : ℕ) → Evaluator → Lineage σ G → Except Fault (Lineage σ G × Evaluator)
  | 0, _, e, l => return (l, e)
  | remaining + 1, asked, e, l => do
    if halt asked then return (l, e)
    else
      match ← l.checkedStep raw e with
      | (.perfect, l, e) => return (l, e)
      | (_, l, e) => checkedRunFor raw halt remaining (asked + 1) e l

def checkedRun (raw : RawSetting V) (budget : ℕ) (halt : ℕ → Bool) (e : Evaluator)
    (l : Lineage σ G) : Except Fault (Lineage σ G × Evaluator) :=
  l.checkedRunFor raw halt (budget - l.generation) 0 e

variable {raw : RawSetting V} (h : raw.mutations.1 ≤ raw.mutations.2)

theorem checkedTrial_eq_ok (l : Lineage σ G) :
    l.checkedTrial raw = .ok (l.trial (raw.withRange h)) := by
  have hyields := (CheckedDraw.yields_between (σ := σ) h).bind (ensures_true _) fun count _ =>
    CheckedGenotype.yields_checkedMutateTimes raw.operators raw.vocabulary count (l.base raw.policy)
  exact hyields l.source

omit h in
/-- With an empty range the first draw fails. -/
theorem checkedTrial_eq_error (h : raw.mutations.2 < raw.mutations.1) (l : Lineage σ G) :
    l.checkedTrial raw = .error (.emptyRange raw.mutations.1 (raw.mutations.2 + 1)) := by
  rw [checkedTrial, CheckedDraw.between, if_neg (Nat.not_le.mpr h)]
  rfl

theorem checkedStep_eq_ok (e : Evaluator) (l : Lineage σ G) :
    l.checkedStep raw e = .ok (l.step (raw.withRange h) e) := by
  rw [checkedStep, checkedTrial_eq_ok h]
  rfl

theorem checkedRunFor_eq_ok (halt : ℕ → Bool) (remaining asked : ℕ) (e : Evaluator)
    (l : Lineage σ G) :
    l.checkedRunFor raw halt remaining asked e =
      .ok (l.runFor (raw.withRange h) halt remaining asked e) := by
  induction remaining generalizing asked e l with
  | zero => rfl
  | succ remaining ih =>
      rw [checkedRunFor, runFor, checkedStep_eq_ok h]
      split_ifs with hhalt
      · rfl
      · obtain ⟨verdict, next, e'⟩ := l.step (raw.withRange h) e
        cases verdict with
        | improved => exact ih _ _ _
        | unchanged => exact ih _ _ _
        | perfect => rfl

theorem checkedRun_eq_ok (budget : ℕ) (halt : ℕ → Bool) (e : Evaluator) (l : Lineage σ G) :
    l.checkedRun raw budget halt e = .ok (l.run (raw.withRange h) budget halt e) :=
  checkedRunFor_eq_ok h halt _ 0 e l

end Lineage

/-! ## Searches -/

namespace Search

section

variable {G V : Type} [Genotype G V]

def rawContext (G : Type) {V : Type} [Genotype G V] (s : Search) (alphabet : Alphabet) :
    RawSetting V :=
  { vocabulary := Genotype.vocabulary G alphabet
    operators := s.operators
    mutations := s.config.mutationsPerGeneration
    policy := s.config.policy }

variable [CheckedGenotype G]

def checkedRunLineage (s : Search) (raw : RawSetting V) (cancelAt : Option Moment)
    (ledger : Ledger G) (seed : UInt64) : Except Fault (Ledger G) := do
  let ended := ledger.results.length
  let solved := s.config.stopOnPerfect && ledger.solved
  let (lineage, evaluator) ←
    (Lineage.new (Stream.ofSeed seed) : Lineage Stream G).checkedRun raw
      s.config.generationsPerLineage (fun asked => Moment.hasCome cancelAt ended asked || solved)
      ledger.evaluator
  let result := lineage.outcome
  return { evaluator
           solved := ledger.solved || result.perfect
           cancelled := Moment.hasCome cancelAt (ended + 1) 0
           results := result :: ledger.results }

def checkedRunLineages (s : Search) (problem : Problem) (seed : UInt64)
    (cancelAt : Option Moment) : Except Fault (Ledger G) :=
  let raw := s.rawContext G (Alphabet.ofTokens problem.alphabet)
  let start : Ledger G :=
    { evaluator := { params := s.config.fitness, corpus := Corpus.ofProblem problem }
      cancelled := Moment.hasCome cancelAt 0 0 }
  (seeds s.config.lineages (Stream.ofSeed seed)).foldlM (s.checkedRunLineage raw cancelAt) start

def checkedSearch (G : Type) {V : Type} [Genotype G V] [CheckedGenotype G] (s : Search)
    (problem : Problem) (seed : UInt64) (cancelAt : Option Moment) :
    Except Fault (SearchReport × List Progress) := do
  let ledger : Ledger G ← s.checkedRunLineages problem seed cancelAt
  return (conclude ledger, reports s.config.lineages ledger)

end

def checkedRunUntil (s : Search) (problem : Problem) (entropy : UInt64)
    (cancelAt : Option Moment) : Except Fault (SearchReport × List Progress) :=
  let seed := s.config.randomSeed.getD entropy
  match s.config.representation with
  | .sequence => s.checkedSearch Sequence problem seed cancelAt
  | .tree => s.checkedSearch SyntaxTree problem seed cancelAt

section

variable {s : Search} (hrange : MutationRange.ofPair? s.config.mutationsPerGeneration =
  some s.mutations)
include hrange

variable {G V : Type} [Genotype G V]

theorem exists_withRange_rawContext (alphabet : Alphabet) :
    ∃ h, (s.rawContext G alphabet).withRange h = s.context (G := G) alphabet := by
  unfold MutationRange.ofPair? at hrange
  split_ifs at hrange with hle
  have hmutations : s.mutations = ⟨_, _, hle⟩ := (Option.some.inj hrange).symm
  refine ⟨hle, ?_⟩
  rw [context, hmutations]
  rfl

variable [CheckedGenotype G]

/-- A lineage of any source, however it is halted, meets no fault. -/
theorem checkedRun_rawContext {σ : Type} [Source σ] (alphabet : Alphabet) (budget : ℕ)
    (halt : ℕ → Bool) (e : Evaluator) (l : Lineage σ G) :
    l.checkedRun (s.rawContext G alphabet) budget halt e =
      .ok (l.run (s.context (G := G) alphabet) budget halt e) := by
  obtain ⟨hle, hcontext⟩ := exists_withRange_rawContext (G := G) hrange alphabet
  rw [← hcontext]
  exact l.checkedRun_eq_ok hle budget halt e

theorem checkedRunLineages_eq_ok (problem : Problem) (seed : UInt64) (cancelAt : Option Moment) :
    (s.checkedRunLineages problem seed cancelAt : Except Fault (Ledger G)) =
      .ok (s.runLineages problem seed cancelAt) := by
  have hlineage : s.checkedRunLineage (s.rawContext G (Alphabet.ofTokens problem.alphabet)) cancelAt =
      fun (ledger : Ledger G) seed =>
        .ok (s.runLineage (s.context (G := G) (Alphabet.ofTokens problem.alphabet)) cancelAt ledger
          seed) := by
    funext ledger seed
    rw [checkedRunLineage, checkedRun_rawContext hrange]
    rfl
  unfold checkedRunLineages runLineages
  dsimp only
  rw [hlineage]
  exact List.foldlM_pure

theorem checkedSearch_eq_ok (problem : Problem) (seed : UInt64) (cancelAt : Option Moment) :
    s.checkedSearch G problem seed cancelAt = .ok (s.search G problem seed cancelAt) := by
  rw [checkedSearch, checkedRunLineages_eq_ok hrange]
  rfl

end

/-- Lineages over these candidates meet no fault, whichever source they draw from, whenever they are
halted, and in whichever state they go on from. -/
def LineagesMeetNoFault (G : Type) {V : Type} [Genotype G V] [CheckedGenotype G] (s : Search)
    (problem : Problem) : Prop :=
  ∀ (σ : Type) [Source σ] (l : Lineage σ G) (budget : ℕ) (halt : ℕ → Bool) (e : Evaluator),
    let alphabet := Alphabet.ofTokens problem.alphabet
    l.checkedRun (s.rawContext G alphabet) budget halt e =
      .ok (l.run (s.context (G := G) alphabet) budget halt e)

/-- A search that could be set up meets no fault: every range that is drawn from has a number in it,
every place that is read, filled or cleared is there, and the wheel points at one of the four
operators.  This holds of its lineages under any source, and of the search as a whole. -/
theorem checkedRunUntil_eq_ok {config : Config} {s : Search} (h : ofConfig config = .ok s)
    (problem : Problem) :
    LineagesMeetNoFault Sequence s problem ∧ LineagesMeetNoFault SyntaxTree s problem ∧
      ∀ (entropy : UInt64) (cancelAt : Option Moment),
        s.checkedRunUntil problem entropy cancelAt = .ok (s.runUntil problem entropy cancelAt) := by
  obtain ⟨-, -, hrange, rfl⟩ := ofConfig_eq_ok_iff.mp h
  refine ⟨fun σ _ l budget halt e => checkedRun_rawContext hrange _ budget halt e l,
    fun σ _ l budget halt e => checkedRun_rawContext hrange _ budget halt e l,
    fun entropy cancelAt => ?_⟩
  unfold checkedRunUntil runUntil
  cases s.config.representation with
  | sequence => exact checkedSearch_eq_ok hrange problem _ cancelAt
  | tree => exact checkedSearch_eq_ok hrange problem _ cancelAt

/-- A drifting search over syntax trees with seven mutations in every generation, for a problem with
empty and repeated tokens and no texts. -/
theorem drift_checkedRunUntil_eq_ok :
    ∃ s, ofConfig
        { representation := .tree, policy := .drift, mutationsPerGeneration := (7, 7) } = .ok s ∧
      LineagesMeetNoFault SyntaxTree s { alphabet := ["", "a", "a"] } ∧
      s.checkedRunUntil { alphabet := ["", "a", "a"] } 0 none =
        .ok (s.runUntil { alphabet := ["", "a", "a"] } 0 none) := by
  obtain ⟨s, hconfig⟩ := exists_ofConfig
    { representation := .tree, policy := .drift, mutationsPerGeneration := (7, 7) }
    (by rfl)
  obtain ⟨-, hlineages, hsearch⟩ :=
    checkedRunUntil_eq_ok hconfig { alphabet := ["", "a", "a"] }
  exact ⟨s, hconfig, hlineages, hsearch 0 none⟩

end Search

end RegexInference
