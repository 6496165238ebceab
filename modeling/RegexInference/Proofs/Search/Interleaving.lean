import RegexInference.Proofs.Search.Accounting

/-!
# Lineages side by side

Nothing makes the lineages of a search wait for each other.  Here they run side by side, in any
order: a lineage that has its turn takes one generation, scored by the one evaluator that all share,
or hands over its result when it has no generation left to take.  Between two turns the search may
be cancelled.

Whatever the order, the shared evaluator has counted the generations of all lineages, and the signal
that a perfect pattern was found tells of the results handed over.  As long as no signal stops a
lineage, it comes to what it comes to on its own, and how far depends on the number of its turns
alone.  So every schedule that lets all lineages end leads to the report of the lineages run one
after the other; only the order in which they report may be another one.
-/

namespace RegexInference

namespace Search

open LineageOutcome

variable {G V : Type} [Genotype G V]

/-! ## Turns -/

inductive Phase where
  /-- A generation may follow. -/
  | walking
  /-- The last trial was perfect, and no generation follows. -/
  | leaving
  /-- The result is handed over. -/
  | ended
  deriving DecidableEq, Repr

/-- A lineage that runs beside others. -/
structure Worker (G : Type) where
  lineage : Lineage Random.Stream G
  phase : Phase := .walking

/-- Lineages in the order of their seeds, with what they share. -/
structure Pool (G : Type) where
  evaluator : Evaluator
  /-- A lineage that has handed over its result found a perfect pattern. -/
  solved : Bool := false
  cancelled : Bool := false
  workers : List (Worker G)
  /-- The reports so far, the first one first. -/
  progress : List Progress := []

inductive Event where
  /-- The lineage with this many before it takes a turn. -/
  | turn (i : ℕ)
  | cancel
  deriving DecidableEq, Repr

namespace Worker

/-- The worker for the lineage of a seed, before its first turn. -/
def waiting (seed : UInt64) : Worker G := { lineage := Lineage.new (Random.Stream.ofSeed seed) }

/-- One turn of a worker.  It takes a generation unless its budget is used up, its last trial was
perfect, or it is to halt; then it ends. -/
def turn (setting : LineageSetting V) (budget : ℕ) (halted : Bool) (e : Evaluator)
    (w : Worker G) : Worker G × Evaluator :=
  match w.phase with
  | .walking =>
    if w.lineage.generation < budget && !halted then
      let taken := w.lineage.step setting e
      ({ lineage := taken.2.1, phase := if taken.1 = .perfect then .leaving else .walking },
        taken.2.2)
    else ({ w with phase := .ended }, e)
  | .leaving => ({ w with phase := .ended }, e)
  | .ended => (w, e)

def outcome (w : Worker G) : LineageOutcome G := w.lineage.outcome

end Worker

namespace Pool

/-- Takes the result of a lineage that has ended, and reports on it. -/
def handOver (pool : Pool G) (total : ℕ) (r : LineageOutcome G) : Pool G :=
  { pool with
    solved := pool.solved || r.perfect
    progress := pool.progress ++
      [{ completed := pool.progress.length + 1, total, bestFitness := r.fitness }] }

/-- A worker turns into the next one, and hands over its result if it ends by that. -/
def move (pool : Pool G) (total i : ℕ) (w : Worker G) (next : Worker G × Evaluator) : Pool G :=
  let moved := { pool with evaluator := next.2, workers := pool.workers.set i next.1 }
  if w.phase ≠ .ended ∧ next.1.phase = .ended then moved.handOver total next.1.outcome else moved

/-- What the workers leave behind, their results in the order of their seeds. -/
def ledger (pool : Pool G) : Ledger G :=
  { evaluator := pool.evaluator
    solved := pool.solved
    cancelled := pool.cancelled
    results := (pool.workers.map Worker.outcome).reverse }

/-- The answer of a search, which has to wait for all its workers. -/
def answer? (pool : Pool G) : Option (SearchReport × List Progress) :=
  if pool.workers.all (·.phase = .ended) then some (conclude pool.ledger, pool.progress) else none

end Pool

/-- Whether a signal tells the lineages to halt. -/
def halts (s : Search) (pool : Pool G) : Bool :=
  pool.cancelled || (s.config.stopOnPerfect && pool.solved)

/-- What becomes of a pool by an event.  The turn of a lineage that does not exist is no turn. -/
def occur (s : Search) (setting : LineageSetting V) (pool : Pool G) : Event → Pool G
  | .cancel => { pool with cancelled := true }
  | .turn i =>
    match pool.workers[i]? with
    | none => pool
    | some w =>
      pool.move s.config.lineages i w
        (w.turn setting s.config.generationsPerLineage (s.halts pool) pool.evaluator)

/-- The lineages of a search before the first turn. -/
def startPool (G : Type) {V : Type} [Genotype G V] (s : Search) (problem : Problem)
    (seed : UInt64) : Pool G :=
  { evaluator := s.evaluator problem
    workers := (seeds s.config.lineages (Random.Stream.ofSeed seed)).map Worker.waiting }

def interleaved (G : Type) {V : Type} [Genotype G V] (s : Search) (problem : Problem)
    (seed : UInt64) (schedule : List Event) : Pool G :=
  schedule.foldl (s.occur (s.context (G := G) (Alphabet.ofTokens problem.alphabet)))
    (s.startPool G problem seed)

/-- Runs the lineages of a search side by side.  There is no answer if the schedule is over before
all lineages have ended. -/
def runInterleaved (s : Search) (problem : Problem) (entropy : UInt64) (schedule : List Event) :
    Option (SearchReport × List Progress) :=
  let seed := s.config.randomSeed.getD entropy
  match s.config.representation with
  | .sequence => (s.interleaved Sequence problem seed schedule).answer?
  | .tree => (s.interleaved SyntaxTree problem seed schedule).answer?

/-! ## What one event can do -/

namespace Worker

variable {setting : LineageSetting V} {e : Evaluator}

/-- What a turn can come to. -/
inductive Turns (setting : LineageSetting V) (e : Evaluator) (w : Worker G) :
    Worker G × Evaluator → Prop where
  | rests (hended : w.phase = .ended) : Turns setting e w (w, e)
  | ends (hrunning : w.phase ≠ .ended) : Turns setting e w ({ w with phase := .ended }, e)
  | walks (hrunning : w.phase ≠ .ended) (phase : Phase) (hphase : phase ≠ .ended) :
      Turns setting e w
        ({ lineage := (w.lineage.step setting e).2.1, phase }, (w.lineage.step setting e).2.2)

/-- A turn leaves nothing behind in the evaluator but its count. -/
theorem Turns.exists_evaluations {w : Worker G} {next : Worker G × Evaluator}
    (hturns : w.Turns setting e next) : ∃ count, next.2 = { e with evaluations := count } := by
  cases hturns with
  | rests => exact ⟨e.evaluations, rfl⟩
  | ends => exact ⟨e.evaluations, rfl⟩
  | walks => exact ⟨e.evaluations + 1, rfl⟩

theorem turn_turns (setting : LineageSetting V) (budget : ℕ) (halted : Bool) (e : Evaluator)
    (w : Worker G) : Turns setting e w (w.turn setting budget halted e) := by
  unfold turn
  cases hphase : w.phase with
  | walking =>
      have hrunning : w.phase ≠ .ended := by simp [hphase]
      dsimp only
      by_cases hmore : (w.lineage.generation < budget && !halted) = true
      · rw [if_pos hmore]
        refine .walks hrunning _ ?_
        split_ifs <;> simp
      · rw [if_neg hmore]
        exact .ends hrunning
  | leaving => exact .ends (by simp [hphase])
  | ended => exact .rests hphase

end Worker

/-! ## What every event keeps -/

namespace Worker

/-- The results that some workers have handed over. -/
def handedOver (workers : List (Worker G)) : List (LineageOutcome G) :=
  (workers.filter (·.phase = .ended)).map outcome

theorem handedOver_of_ended (before after : List (Worker G)) {w : Worker G}
    (hended : w.phase = .ended) :
    handedOver (before ++ w :: after) = handedOver before ++ w.outcome :: handedOver after := by
  simp [handedOver, hended]

theorem handedOver_of_running (before after : List (Worker G)) {w : Worker G}
    (hrunning : w.phase ≠ .ended) :
    handedOver (before ++ w :: after) = handedOver before ++ handedOver after := by
  simp [handedOver, hrunning]

end Worker

namespace Pool

/-- What the workers share agrees with what they have done since the evaluator was `e`. -/
structure Sound (e : Evaluator) (total : ℕ) (pool : Pool G) : Prop where
  evaluator : pool.evaluator =
    { e with evaluations := e.evaluations + totalGenerations (pool.workers.map Worker.outcome) }
  solved : pool.solved = (Worker.handedOver pool.workers).any LineageOutcome.perfect
  completed : pool.progress.map Progress.completed = List.range' 1 pool.progress.length
  total : ∀ p ∈ pool.progress, p.total = total
  reported : (pool.progress.map Progress.bestFitness).Perm
    ((Worker.handedOver pool.workers).map LineageOutcome.fitness)

variable {setting : LineageSetting V} {e : Evaluator} {total : ℕ} {pool : Pool G}

theorem Sound.end_of_running (hsound : pool.Sound e total) {before after : List (Worker G)}
    {w : Worker G} (hworkers : pool.workers = before ++ w :: after) (hrunning : w.phase ≠ .ended) :
    Sound e total (handOver
      { pool with workers := before ++ { w with phase := .ended } :: after } total w.outcome) := by
  obtain ⟨hevaluator, hsolved, hcompleted, htotal, hreported⟩ := hsound
  have hold := Worker.handedOver_of_running before after hrunning
  have hnew := Worker.handedOver_of_ended before after (w := { w with phase := .ended }) rfl
  rw [hworkers] at hevaluator hsolved hreported
  rw [hold] at hsolved hreported
  constructor
  · simpa [handOver, Worker.outcome] using hevaluator
  · simp only [handOver, hnew, hsolved, List.any_append, List.any_cons]
    rw [Bool.or_assoc, Bool.or_comm _ w.outcome.perfect]
    rfl
  · simp [handOver, hcompleted, List.range'_concat, Nat.add_comm]
  · intro p hp
    rcases List.mem_append.mp hp with hp | hp
    · exact htotal p hp
    · rw [List.mem_singleton.mp hp]
  · simp only [handOver, hnew, List.map_append, List.map_cons, List.map_nil] at hreported ⊢
    exact ((hreported.append_right _).trans (List.perm_append_singleton _ _)).trans
      List.perm_middle.symm

theorem Sound.walk_of_running (hsound : pool.Sound e total) {before after : List (Worker G)}
    {w : Worker G} (hworkers : pool.workers = before ++ w :: after) (hrunning : w.phase ≠ .ended)
    {phase : Phase} (hphase : phase ≠ .ended) :
    Sound e total
      { pool with
        evaluator := (w.lineage.step setting pool.evaluator).2.2
        workers := before ++
          { lineage := (w.lineage.step setting pool.evaluator).2.1, phase } :: after } := by
  obtain ⟨hevaluator, hsolved, hcompleted, htotal, hreported⟩ := hsound
  rw [hworkers] at hevaluator hsolved hreported
  rw [Worker.handedOver_of_running before after hrunning] at hsolved hreported
  have hnew := Worker.handedOver_of_running before after
    (w := { lineage := (w.lineage.step setting pool.evaluator).2.1, phase }) hphase
  refine ⟨?_, by rw [hnew, hsolved], hcompleted, htotal, by rw [hnew]; exact hreported⟩
  have hgenerations : totalGenerations ((before ++
      { lineage := (w.lineage.step setting pool.evaluator).2.1, phase } :: after).map
        Worker.outcome) = totalGenerations ((before ++ w :: after).map Worker.outcome) + 1 := by
    simp only [totalGenerations, Worker.outcome, Lineage.outcome, List.map_append, List.map_cons,
      List.sum_append, List.sum_cons, Lineage.generation_step]
    omega
  rw [hgenerations, Lineage.evaluator_step, hevaluator]
  rfl

theorem move_sound {i : ℕ} {w : Worker G} {next : Worker G × Evaluator}
    (hsound : pool.Sound e total) (hw : pool.workers[i]? = some w)
    (hturns : w.Turns setting pool.evaluator next) : (pool.move total i w next).Sound e total := by
  obtain ⟨hi, rfl⟩ := List.getElem?_eq_some_iff.mp hw
  obtain ⟨before, after, hworkers, -, hset⟩ :
      ∃ before after, pool.workers = before ++ pool.workers[i] :: after ∧ before.length = i ∧
        pool.workers.set i next.1 = before ++ next.1 :: after := List.exists_of_set hi
  generalize pool.workers[i] = w at hworkers hset hturns ⊢
  unfold move
  rw [hset]
  cases hturns with
  | rests hended =>
      rw [if_neg (by simp [hended])]
      dsimp only
      rw [← hworkers]
      exact hsound
  | ends hrunning =>
      rw [if_pos ⟨hrunning, rfl⟩]
      exact hsound.end_of_running hworkers hrunning
  | walks hrunning phase hphase =>
      rw [if_neg (by simp [hphase])]
      exact hsound.walk_of_running hworkers hrunning hphase

end Pool

theorem occur_sound (s : Search) (setting : LineageSetting V) {e : Evaluator} {pool : Pool G}
    (hsound : pool.Sound e s.config.lineages) (event : Event) :
    (s.occur setting pool event).Sound e s.config.lineages := by
  cases event with
  | cancel => exact ⟨hsound.1, hsound.2, hsound.3, hsound.4, hsound.5⟩
  | turn i =>
      unfold occur
      dsimp only
      split
      · exact hsound
      · next w hw => exact Pool.move_sound hsound hw (Worker.turn_turns _ _ _ _ w)

theorem foldl_occur_sound (s : Search) (setting : LineageSetting V) {e : Evaluator}
    (schedule : List Event) {pool : Pool G} (hsound : pool.Sound e s.config.lineages) :
    (schedule.foldl (s.occur setting) pool).Sound e s.config.lineages := by
  induction schedule generalizing pool with
  | nil => exact hsound
  | cons event schedule ih => exact ih (occur_sound s setting hsound event)

theorem startPool_sound (s : Search) (problem : Problem) (seed : UInt64) :
    (s.startPool G problem seed).Sound (s.evaluator problem) s.config.lineages := by
  have hidle : (s.startPool G problem seed).workers.map Worker.outcome =
      List.replicate s.config.lineages idle := by
    unfold startPool
    rw [List.map_map, List.eq_replicate_iff]
    refine ⟨by rw [List.length_map, length_seeds], fun r hr => ?_⟩
    obtain ⟨seed, -, rfl⟩ := List.mem_map.mp hr
    rfl
  have hnone : Worker.handedOver (s.startPool G problem seed).workers = [] := by
    simp [Worker.handedOver, startPool, Worker.waiting]
  refine ⟨?_, by rw [hnone]; rfl, rfl, fun p hp => absurd hp List.not_mem_nil, by rw [hnone]; rfl⟩
  rw [hidle]
  simp [startPool, totalGenerations, idle]

/-! ## Many turns of one worker -/

namespace Worker

section

variable (setting : LineageSetting V) (budget : ℕ) (halted : Bool)

/-- A turn of a worker, along with the evaluator. -/
def turnWith (p : Worker G × Evaluator) : Worker G × Evaluator :=
  p.1.turn setting budget halted p.2

theorem turn_of_ended (e : Evaluator) {w : Worker G} (hended : w.phase = .ended) :
    w.turn setting budget halted e = (w, e) := by
  unfold turn
  rw [hended]

theorem iterate_turnWith_of_ended (e : Evaluator) {w : Worker G} (hended : w.phase = .ended)
    (n : ℕ) : (turnWith setting budget halted)^[n] (w, e) = (w, e) :=
  Function.iterate_fixed (turn_of_ended setting budget halted e hended) n

/-- One turn more than the budget allows is always enough for a lineage to come to its end. -/
theorem iterate_turnWith_eq_runFor (remaining asked : ℕ) (l : Lineage Random.Stream G)
    (e : Evaluator) (hbudget : l.generation + remaining = budget) :
    (turnWith setting budget halted)^[remaining + 1] ({ lineage := l }, e) =
      ({ lineage := (l.runFor setting (fun _ => halted) remaining asked e).1, phase := .ended },
        (l.runFor setting (fun _ => halted) remaining asked e).2) := by
  induction remaining generalizing asked l e with
  | zero =>
      have hspent : ¬ l.generation < budget := by omega
      simp [turnWith, turn, hspent, Lineage.runFor]
  | succ remaining ih =>
      have hmore : l.generation < budget := by omega
      rw [Function.iterate_succ_apply, Lineage.runFor_succ]
      by_cases hhalted : halted = true
      · have hend : turnWith setting budget halted ({ lineage := l }, e) =
            ({ lineage := l, phase := .ended }, e) := by
          simp [turnWith, turn, hhalted]
        rw [hend, if_pos hhalted]
        exact iterate_turnWith_of_ended setting budget halted e rfl (remaining + 1)
      · have hwalk : turnWith setting budget halted ({ lineage := l }, e) =
            ({ lineage := (l.step setting e).2.1
               phase := if (l.step setting e).1 = .perfect then .leaving else .walking },
              (l.step setting e).2.2) := by
          simp [turnWith, turn, hmore, hhalted]
        rw [hwalk, if_neg hhalted]
        by_cases hperfect : (l.step setting e).1 = .perfect
        · rw [if_pos hperfect, if_pos hperfect, Function.iterate_succ_apply]
          exact iterate_turnWith_of_ended setting budget halted _ rfl remaining
        · rw [if_neg hperfect, if_neg hperfect]
          exact ih (asked + 1) _ _ (by rw [Lineage.generation_step]; omega)

end

/-! ## Lineages that nothing stops from outside -/

variable (setting : LineageSetting V) (budget : ℕ) (e : Evaluator)

/-- The turn of a worker when no signal tells it to halt. -/
def walk (w : Worker G) : Worker G := (w.turn setting budget false e).1

theorem turn_evaluations (halted : Bool) (w : Worker G) (count : ℕ) :
    (w.turn setting budget halted { e with evaluations := count }).1 =
      (w.turn setting budget halted e).1 := by
  unfold turn
  cases w.phase with
  | walking =>
      dsimp only
      by_cases hmore : (w.lineage.generation < budget && !halted) = true
      · rw [if_pos hmore, if_pos hmore]
        rfl
      · rw [if_neg hmore, if_neg hmore]
  | leaving => rfl
  | ended => rfl

theorem iterate_walk_of_ended {w : Worker G} (hended : w.phase = .ended) (n : ℕ) :
    (walk setting budget e)^[n] w = w :=
  Function.iterate_fixed (congrArg Prod.fst (turn_of_ended setting budget false e hended)) n

/-- Where a worker gets to does not depend on how often the evaluator was used by others. -/
theorem exists_iterate_turnWith (w : Worker G) (n : ℕ) :
    ∃ count, (turnWith setting budget false)^[n] (w, e) =
      ((walk setting budget e)^[n] w, { e with evaluations := count }) := by
  induction n with
  | zero => exact ⟨e.evaluations, rfl⟩
  | succ n ih =>
      obtain ⟨count, hcount⟩ := ih
      rw [Function.iterate_succ_apply', Function.iterate_succ_apply', hcount]
      generalize (walk setting budget e)^[n] w = reached
      have hworker : (reached.turn setting budget false { e with evaluations := count }).1 =
          walk setting budget e reached := turn_evaluations setting budget e false reached count
      obtain ⟨count', hcount'⟩ := (turn_turns setting budget false
        { e with evaluations := count } reached).exists_evaluations
      exact ⟨count', Prod.ext hworker hcount'⟩

/-- What a worker is when it has ended without being told to. -/
def final (seed : UInt64) : Worker G :=
  { lineage := ((Lineage.new (Random.Stream.ofSeed seed) : Lineage Random.Stream G).run setting
      budget (fun _ => false) e).1
    phase := .ended }

theorem iterate_walk_of_lt (seed : UInt64) {n : ℕ} (hturns : budget < n) :
    (walk setting budget e)^[n] (waiting seed : Worker G) = final setting budget e seed := by
  have hfinal : (walk setting budget e)^[budget + 1] (waiting seed : Worker G) =
      final setting budget e seed := by
    obtain ⟨count, hwalk⟩ := exists_iterate_turnWith setting budget e (waiting seed : Worker G)
      (budget + 1)
    unfold waiting at hwalk
    rw [iterate_turnWith_eq_runFor setting budget false budget 0 _ e (Nat.zero_add budget)] at hwalk
    exact (congrArg Prod.fst hwalk).symm
  obtain ⟨more, rfl⟩ := Nat.exists_eq_add_of_le' hturns
  rw [Function.iterate_add_apply, hfinal]
  exact iterate_walk_of_ended setting budget e rfl more

theorem iterate_walk_of_phase (seed : UInt64) {n : ℕ}
    (hended : ((walk setting budget e)^[n] (waiting seed : Worker G)).phase = .ended) :
    (walk setting budget e)^[n] (waiting seed : Worker G) = final setting budget e seed := by
  -- Turns behind the end change nothing, so there may as well be more than the budget allows.
  rw [← iterate_walk_of_ended setting budget e hended (budget + 1), ← Function.iterate_add_apply]
  exact iterate_walk_of_lt setting budget e seed (by omega)

end Worker

/-! ## Any schedule -/

namespace Pool

section

variable (pool : Pool G) (total i : ℕ) (w : Worker G) (next : Worker G × Evaluator)

theorem workers_move : (pool.move total i w next).workers = pool.workers.set i next.1 := by
  unfold move
  split_ifs <;> rfl

theorem cancelled_move : (pool.move total i w next).cancelled = pool.cancelled := by
  unfold move
  split_ifs <;> rfl

end

end Pool

theorem cancelled_occur_turn (s : Search) (setting : LineageSetting V) (pool : Pool G) (i : ℕ) :
    (s.occur setting pool (.turn i)).cancelled = pool.cancelled := by
  unfold occur
  dsimp only
  split
  · rfl
  · exact Pool.cancelled_move _ _ _ _ _

section

variable (s : Search) (setting : LineageSetting V) {e : Evaluator}

/-- A turn takes its worker on as if it were alone, and leaves all others where they are. -/
theorem getElem?_occur_turn (hstop : s.config.stopOnPerfect = false) {pool : Pool G}
    (hcancelled : pool.cancelled = false) (hsound : pool.Sound e s.config.lineages) (i j : ℕ) :
    (s.occur setting pool (.turn i)).workers[j]? =
      if i = j then pool.workers[j]?.map (Worker.walk setting s.config.generationsPerLineage e)
      else pool.workers[j]? := by
  have hhalts : s.halts pool = false := by simp [halts, hstop, hcancelled]
  have hwalk : ∀ w : Worker G,
      (w.turn setting s.config.generationsPerLineage false pool.evaluator).1 =
        Worker.walk setting s.config.generationsPerLineage e w := by
    intro w
    rw [hsound.evaluator, Worker.turn_evaluations]
    rfl
  unfold occur
  dsimp only
  rw [hhalts]
  by_cases hij : i = j
  · subst hij
    rw [if_pos rfl]
    split
    · next hw => simp [hw]
    · next w hw =>
      obtain ⟨hi, -⟩ := List.getElem?_eq_some_iff.mp hw
      rw [Pool.workers_move, List.getElem?_set_self hi, hw, Option.map_some, hwalk]
  · rw [if_neg hij]
    split
    · rfl
    · rw [Pool.workers_move, List.getElem?_set_ne hij]

/-- How far a worker has come depends on the number of its turns alone. -/
theorem getElem?_foldl_occur (hstop : s.config.stopOnPerfect = false) (schedule : List Event)
    (hcancel : .cancel ∉ schedule) {pool : Pool G} (hcancelled : pool.cancelled = false)
    (hsound : pool.Sound e s.config.lineages) (j : ℕ) :
    (schedule.foldl (s.occur setting) pool).workers[j]? =
      pool.workers[j]?.map
        (Worker.walk setting s.config.generationsPerLineage e)^[schedule.count (.turn j)] := by
  induction schedule generalizing pool with
  | nil => simp
  | cons event schedule ih =>
      obtain ⟨hevent, hrest⟩ := not_or.mp (mt List.mem_cons.mpr hcancel)
      cases event with
      | cancel => exact absurd rfl hevent
      | turn i =>
          rw [List.foldl_cons, ih hrest ((cancelled_occur_turn s setting pool i).trans hcancelled)
            (occur_sound s setting hsound _), getElem?_occur_turn s setting hstop hcancelled hsound]
          by_cases hij : i = j
          · subst hij
            rw [if_pos rfl, Option.map_map, ← Function.iterate_succ, List.count_cons_self]
          · have hne : Event.turn i ≠ Event.turn j := by simp [hij]
            rw [if_neg hij, List.count_cons_of_ne hne]

theorem cancelled_foldl_occur (schedule : List Event) (hcancel : .cancel ∉ schedule)
    {pool : Pool G} (hcancelled : pool.cancelled = false) :
    (schedule.foldl (s.occur setting) pool).cancelled = false := by
  induction schedule generalizing pool with
  | nil => exact hcancelled
  | cons event schedule ih =>
      obtain ⟨hevent, hrest⟩ := not_or.mp (mt List.mem_cons.mpr hcancel)
      cases event with
      | cancel => exact absurd rfl hevent
      | turn i => exact ih hrest ((cancelled_occur_turn s setting pool i).trans hcancelled)

end

section

variable (s : Search) (problem : Problem) (seed : UInt64) {schedule : List Event}

theorem interleaved_sound (schedule : List Event) :
    (s.interleaved G problem seed schedule).Sound (s.evaluator problem) s.config.lineages :=
  foldl_occur_sound s _ schedule (startPool_sound s problem seed)

theorem getElem?_interleaved (hstop : s.config.stopOnPerfect = false)
    (hcancel : .cancel ∉ schedule) (j : ℕ) :
    (s.interleaved G problem seed schedule).workers[j]? =
      (seeds s.config.lineages (Random.Stream.ofSeed seed))[j]?.map fun seed =>
        (Worker.walk (s.context (G := G) (Alphabet.ofTokens problem.alphabet))
          s.config.generationsPerLineage (s.evaluator problem))^[schedule.count (.turn j)]
            (Worker.waiting seed) := by
  unfold interleaved
  rw [getElem?_foldl_occur s _ hstop schedule hcancel rfl (startPool_sound s problem seed)]
  unfold startPool
  rw [List.getElem?_map, Option.map_map]
  rfl

/-- Every schedule with a turn more for each lineage than its budget allows lets all of them end. -/
theorem isSome_answer?_interleaved (hstop : s.config.stopOnPerfect = false)
    (hcancel : .cancel ∉ schedule)
    (hturns : ∀ i < s.config.lineages, s.config.generationsPerLineage < schedule.count (.turn i)) :
    (s.interleaved G problem seed schedule).answer?.isSome = true := by
  have hended : ∀ w ∈ (s.interleaved G problem seed schedule).workers, w.phase = .ended := by
    intro w hw
    obtain ⟨j, hj⟩ := List.mem_iff_getElem?.mp hw
    rw [getElem?_interleaved s problem seed hstop hcancel] at hj
    obtain ⟨lineageSeed, hseed, rfl⟩ := Option.map_eq_some_iff.mp hj
    obtain ⟨hlt, -⟩ := List.getElem?_eq_some_iff.mp hseed
    rw [length_seeds] at hlt
    rw [Worker.iterate_walk_of_lt _ _ _ _ (hturns j hlt)]
    rfl
  unfold Pool.answer?
  rw [if_pos (by simpa using hended)]
  rfl

theorem outcomes_interleaved (hstop : s.config.stopOnPerfect = false)
    (hcancel : .cancel ∉ schedule)
    (hended : ∀ w ∈ (s.interleaved G problem seed schedule).workers, w.phase = .ended) :
    (s.interleaved G problem seed schedule).workers.map Worker.outcome =
      s.outcomesAlone G problem seed none := by
  apply List.ext_getElem?
  intro j
  unfold outcomesAlone
  rw [List.getElem?_map, List.getElem?_mapIdx]
  have hj := getElem?_interleaved (G := G) s problem seed hstop hcancel j
  cases hseed : (seeds s.config.lineages (Random.Stream.ofSeed seed))[j]? with
  | none =>
      rw [hj, hseed]
      rfl
  | some lineageSeed =>
      rw [hseed, Option.map_some] at hj
      have hphase := hended _ (List.mem_of_getElem? hj)
      rw [hj, Worker.iterate_walk_of_phase _ _ _ _ hphase]
      rfl

/-- Lineages side by side that have all ended leave behind what they leave behind one after the
other. -/
theorem ledger_interleaved (hstop : s.config.stopOnPerfect = false) (hcancel : .cancel ∉ schedule)
    (hended : ∀ w ∈ (s.interleaved G problem seed schedule).workers, w.phase = .ended) :
    (s.interleaved G problem seed schedule).ledger = s.runLineages problem seed none := by
  have hsound := interleaved_sound (G := G) s problem seed schedule
  have hcancelled : (s.interleaved G problem seed schedule).cancelled = false :=
    cancelled_foldl_occur s _ schedule hcancel rfl
  have houtcomes := outcomes_interleaved (G := G) s problem seed hstop hcancel hended
  have hhanded : Worker.handedOver (s.interleaved G problem seed schedule).workers =
      s.outcomesAlone G problem seed none := by
    unfold Worker.handedOver
    rw [List.filter_eq_self.mpr (by simpa using hended), houtcomes]
  rw [runLineages_eq_ofResults, hstop, heldBack_false]
  unfold Pool.ledger Ledger.ofResults
  rw [hsound.evaluator, hsound.solved, hcancelled, hhanded, houtcomes]
  rfl

end

/-! ## Reports -/

theorem length_workers_occur (s : Search) (setting : LineageSetting V) (pool : Pool G)
    (event : Event) : (s.occur setting pool event).workers.length = pool.workers.length := by
  cases event with
  | cancel => rfl
  | turn i =>
      unfold occur
      dsimp only
      split
      · rfl
      · rw [Pool.workers_move, List.length_set]

theorem length_workers_foldl_occur (s : Search) (setting : LineageSetting V)
    (schedule : List Event) (pool : Pool G) :
    (schedule.foldl (s.occur setting) pool).workers.length = pool.workers.length := by
  induction schedule generalizing pool with
  | nil => rfl
  | cons event schedule ih => rw [List.foldl_cons, ih, length_workers_occur]

/-- Whatever stops the lineages, each of them has reported when all have ended. -/
theorem completed_answer? (s : Search) (problem : Problem) (seed : UInt64) {schedule : List Event}
    {answer : SearchReport × List Progress}
    (hanswer : (s.interleaved G problem seed schedule).answer? = some answer) :
    answer.2.map Progress.completed = List.range' 1 s.config.lineages ∧
      ∀ p ∈ answer.2, p.total = s.config.lineages := by
  unfold Pool.answer? at hanswer
  split_ifs at hanswer with hall
  cases hanswer
  have hsound := interleaved_sound (G := G) s problem seed schedule
  have hworkers : (s.interleaved G problem seed schedule).workers.length = s.config.lineages := by
    unfold interleaved
    rw [length_workers_foldl_occur]
    simp [startPool, length_seeds]
  have hreported := hsound.reported.length_eq
  unfold Worker.handedOver at hreported
  rw [List.filter_eq_self.mpr (by simpa using hall), List.length_map, List.length_map,
    List.length_map, hworkers] at hreported
  exact ⟨hreported ▸ hsound.completed, hsound.total⟩

/-- Two answers are the same but for the order in which the lineages reported. -/
structure SameButOrder (besides inTurn : SearchReport × List Progress) : Prop where
  report : besides.1 = inTurn.1
  completed : besides.2.map Progress.completed = inTurn.2.map Progress.completed
  total : ∀ p ∈ besides.2, ∀ q ∈ inTurn.2, p.total = q.total
  reported : (besides.2.map Progress.bestFitness).Perm (inTurn.2.map Progress.bestFitness)

theorem answer?_interleaved (s : Search) (problem : Problem) (seed : UInt64)
    {schedule : List Event} (hstop : s.config.stopOnPerfect = false)
    (hcancel : .cancel ∉ schedule) {answer : SearchReport × List Progress}
    (hanswer : (s.interleaved G problem seed schedule).answer? = some answer) :
    SameButOrder answer (s.search G problem seed none) := by
  obtain ⟨hcompleted, htotal⟩ := completed_answer? s problem seed hanswer
  have haddsUp := search_addsUp (G := G) s problem seed none
  unfold Pool.answer? at hanswer
  split_ifs at hanswer with hall
  cases hanswer
  have hended : ∀ w ∈ (s.interleaved G problem seed schedule).workers, w.phase = .ended := by
    simpa using hall
  have hsound := interleaved_sound (G := G) s problem seed schedule
  have hreported : ((s.interleaved G problem seed schedule).progress.map
      Progress.bestFitness).Perm ((s.search G problem seed none).2.map Progress.bestFitness) := by
    have hhanded := hsound.reported
    unfold Worker.handedOver at hhanded
    rw [List.filter_eq_self.mpr (by simpa using hended),
      outcomes_interleaved s problem seed hstop hcancel hended] at hhanded
    rw [map_bestFitness_search, hstop, heldBack_false]
    exact hhanded
  refine ⟨?_, hcompleted.trans haddsUp.completed.symm,
    fun p hp q hq => (htotal p hp).trans (haddsUp.total q hq).symm, hreported⟩
  rw [ledger_interleaved s problem seed hstop hcancel hended]
  rfl

theorem sameButOrder_of_runInterleaved {s : Search} {seed : UInt64}
    (hseed : s.config.randomSeed = some seed) (hstop : s.config.stopOnPerfect = false)
    {problem : Problem} {entropy : UInt64} {schedule : List Event} (hcancel : .cancel ∉ schedule)
    {answer : SearchReport × List Progress}
    (hanswer : s.runInterleaved problem entropy schedule = some answer) (entropy' : UInt64) :
    SameButOrder answer (s.runUntil problem entropy' none) := by
  unfold runInterleaved at hanswer
  rw [hseed] at hanswer
  cases hrepresentation : s.config.representation with
  | sequence =>
      rw [hrepresentation] at hanswer
      rw [runUntil_sequence hseed hrepresentation]
      exact answer?_interleaved s problem seed hstop hcancel hanswer
  | tree =>
      rw [hrepresentation] at hanswer
      rw [runUntil_tree hseed hrepresentation]
      exact answer?_interleaved s problem seed hstop hcancel hanswer

/-- A search whose lineages run side by side, with no perfect pattern to stop them, answers as if
they ran one after the other, whatever the schedule, as long as it lets each of them end; and each
of them ends that has a turn more than its budget allows. -/
theorem runInterleaved_sameButOrder (config : Config) (s : Search)
    (hconfig : ofConfig config = .ok s) (hseed : config.randomSeed.isSome = true)
    (hstop : config.stopOnPerfect = false) (problem : Problem) (entropy entropy' : UInt64)
    (schedule : List Event) (hcancel : .cancel ∉ schedule) :
    (∀ answer, s.runInterleaved problem entropy schedule = some answer →
      SameButOrder answer (s.runUntil problem entropy' none)) ∧
    ((∀ i < config.lineages, config.generationsPerLineage < schedule.count (.turn i)) →
      (s.runInterleaved problem entropy schedule).isSome = true) := by
  obtain ⟨rfl, -⟩ := ofConfig_eq_ok hconfig
  obtain ⟨seed, hseed⟩ := Option.isSome_iff_exists.mp hseed
  refine ⟨fun answer hanswer =>
    sameButOrder_of_runInterleaved hseed hstop hcancel hanswer entropy', ?_⟩
  unfold runInterleaved
  cases s.config.representation with
  | sequence => exact isSome_answer?_interleaved s problem _ hstop hcancel
  | tree => exact isSome_answer?_interleaved s problem _ hstop hcancel

/-- Two lineages of three generations each that take turns in no regular order. -/
theorem runInterleaved_sameButOrder_alternating :
    ∃ s answer,
      ofConfig
        { lineages := 2, generationsPerLineage := 3, representation := .tree
          stopOnPerfect := false, randomSeed := some 7 } = .ok s ∧
      s.runInterleaved Problem.example 0 ([1, 0, 1, 0, 0, 1, 1, 0].map .turn) = some answer ∧
      SameButOrder answer (s.runUntil Problem.example 1 none) := by
  obtain ⟨s, hconfig⟩ := exists_ofConfig
    { lineages := 2, generationsPerLineage := 3, representation := .tree
      stopOnPerfect := false, randomSeed := some 7 } (by rfl)
  obtain ⟨hsame, hends⟩ := runInterleaved_sameButOrder _ s hconfig rfl rfl Problem.example 0 1
    ([1, 0, 1, 0, 0, 1, 1, 0].map .turn) (by decide)
  obtain ⟨answer, hanswer⟩ := Option.isSome_iff_exists.mp (hends (by decide))
  exact ⟨s, answer, hconfig, hanswer, hsame answer hanswer⟩

end Search

end RegexInference
