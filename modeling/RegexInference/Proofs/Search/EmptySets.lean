import RegexInference.Proofs.Genotype.Edits
import RegexInference.Proofs.Search.Generations

/-!
# Sets that no lineage keeps

A tree with a set without children scores minus infinity, so no lineage ever keeps one.  Fresh sets
have no children.  A lineage that climbs by one mutation in every generation would have to keep such
a set before it can fill it, and therefore never keeps any set at all.
-/

namespace RegexInference

open RegexInference.Random
open Node (Occurs)

/-! ## One mutation of a tree without sets -/

/-- There is no set among these nodes, and so none below them. -/
def Node.NoSet (nodes : List Node) : Prop := ∀ children, Node.set children ∉ nodes

/-- What one mutation makes of nodes among which there is no set. -/
def Node.Fresh (nodes : List Node) : Prop := NoSet nodes ∨ Node.set [] ∈ nodes

variable {σ : Type} [Source σ]

namespace Node

theorem not_occurs_of_noSet {nodes : List Node} (h : NoSet nodes) (children : List Node) :
    ¬ Occurs (.set children) nodes := by
  intro hoccurs
  cases hoccurs with
  | here hmem => exact h _ hmem
  | inside hmem => exact h _ hmem

theorem listSetPaths_of_noSet {nodes : List Node} (h : NoSet nodes) (i : ℕ) :
    listSetPaths i nodes = [] := by
  induction nodes generalizing i with
  | nil => rfl
  | cons node rest ih =>
      have hrest : NoSet rest := fun children hmem => h children (List.mem_cons_of_mem _ hmem)
      rw [listSetPaths, ih hrest]
      cases node with
      | set children => exact absurd List.mem_cons_self (h children)
      | char | literal | quantifier => rfl

/-- An edit brings in no set but one without children. -/
theorem fresh_of_edits {v : NodeSupply} {nodes edited : List Node} (hnodes : NoSet nodes)
    (hedits : Edits v.Offers nodes edited) : Fresh edited := by
  by_cases hempty : Node.set [] ∈ edited
  · exact Or.inr hempty
  · left
    intro children hmem
    rcases hedits.mem _ hmem with hold | hnew
    · exact hnodes children hold
    · obtain rfl : children = [] := hnew
      exact hempty hmem

end Node

/-- A tree without sets has its root to be edited and nothing else. -/
theorem SyntaxTree.ensures_mutate_fresh {t : SyntaxTree} (h : Node.NoSet t.children)
    (op : Operator) (v : NodeSupply) :
    Ensures (t.mutate op v : Draw σ SyntaxTree) fun next => Node.Fresh next.children := by
  have hpaths : t.listPaths = [[]] := by
    rw [listPaths, Node.listSetPaths_of_noSet h]
  unfold mutate
  rw [hpaths]
  refine (ensures_choose _).bind fun drawn hdrawn => ?_
  cases drawn with
  | none => exact ensures_pure (Or.inl h)
  | some path =>
      obtain rfl : path = [] := by simpa using hdrawn.1 path rfl
      refine (Node.ensures_editList v t.children op).bind fun edited hedits => ?_
      exact ensures_pure (Node.fresh_of_edits h hedits)

theorem SyntaxTree.ensures_mutateTimes_one {t : SyntaxTree} (h : Node.NoSet t.children)
    (wheel : OperatorWheel) (v : NodeSupply) :
    Ensures (Genotype.mutateTimes wheel v 1 t : Draw σ SyntaxTree) fun next =>
      Node.Fresh next.children := by
  refine (ensures_true wheel.spin).bind fun op _ => ?_
  exact (ensures_mutate_fresh h op v).bind fun next hnext => ensures_pure hnext

/-! ## Lineages -/

namespace Lineage

variable (setting : LineageSetting NodeSupply) (e : Evaluator) (source : σ) (n : ℕ)

/-- No lineage keeps a set without children, however many mutations a generation has. -/
theorem not_occurs_empty_best :
    ¬ Occurs (.set []) ((new source : Lineage σ SyntaxTree).stepped setting e n).1.best.children := by
  refine stepped_induction (P := fun (l : Lineage σ SyntaxTree) => ¬ Occurs (.set []) l.best.children)
    setting e n ?_ ?_
  · intro trial l next verdict haccepts hl
    rcases haccepts.best_cases with hbest | ⟨hbest, hscore⟩
    · rw [hbest]
      exact hl
    · rw [hbest]
      exact fun hoccurs => hscore (SyntaxTree.score_eq_neg_infinity hoccurs _ _)
  · exact Node.not_occurs_of_noSet (fun _ => List.not_mem_nil) _

/-- A single mutation in a generation leads from a tree without sets to one that is fresh. -/
theorem fresh_trial (hmin : setting.mutations.min = 1) (hmax : setting.mutations.max = 1)
    {l : Lineage σ SyntaxTree} (h : Node.NoSet (l.base setting.policy).children) :
    Node.Fresh (l.trial setting).1.children := by
  have hdraw : Ensures (setting.mutations.draw : Draw σ ℕ) fun count => count = 1 := by
    refine (ensures_between setting.mutations.min_le_max).mono fun count hcount => ?_
    omega
  have htrial := hdraw.bind (Q := fun next => Node.Fresh (SyntaxTree.children next))
    fun count hcount => hcount ▸ SyntaxTree.ensures_mutateTimes_one h setting.operators
      setting.vocabulary
  exact htrial l.source

theorem noSet_best (hpolicy : setting.policy = .hillClimb) (hmin : setting.mutations.min = 1)
    (hmax : setting.mutations.max = 1) :
    Node.NoSet ((new source : Lineage σ SyntaxTree).stepped setting e n).1.best.children := by
  induction n with
  | zero => exact fun _ => List.not_mem_nil
  | succ n ih =>
      have haccepts := step_accepts setting
        ((new source : Lineage σ SyntaxTree).stepped setting e n).2
        ((new source : Lineage σ SyntaxTree).stepped setting e n).1
      rw [stepped]
      rcases haccepts.best_cases with hbest | ⟨hbest, hscore⟩
      · rw [hbest]
        exact ih
      · rw [hbest]
        rcases fresh_trial setting hmin hmax (by rw [hpolicy]; exact ih) with hnone | hempty
        · exact hnone
        · exact absurd (SyntaxTree.score_eq_neg_infinity (.here hempty) _ _) hscore

/-- A tree with a set without children anywhere compiles in neither mode and scores minus infinity.
So whatever a lineage draws from, and however it is set, its best candidate has no such set at any
time; and if it climbs by one mutation in every generation, its best candidate has no set at all. -/
theorem empty_sets_never_kept :
    (∀ t : SyntaxTree, Occurs (.set []) t.children →
      (∀ mode, Matcher.ofPattern t.toPattern mode = .error (.malformed t.toPattern)) ∧
        ∀ params corpus, Fitness.score params corpus t.toPattern = -Fitness.infinity) ∧
    ∀ (σ : Type) [Source σ] (setting : LineageSetting NodeSupply) (e : Evaluator) (source : σ)
      (n : ℕ),
      let best := ((new source : Lineage σ SyntaxTree).stepped setting e n).1.best
      ¬ Occurs (.set []) best.children ∧
        (setting.policy = .hillClimb → setting.mutations.min = 1 → setting.mutations.max = 1 →
          ∀ children, ¬ Occurs (.set children) best.children) := by
  refine ⟨fun t h => ⟨SyntaxTree.ofPattern_eq_malformed h, SyntaxTree.score_eq_neg_infinity h⟩,
    fun σ _ setting e source n => ⟨not_occurs_empty_best setting e source n, ?_⟩⟩
  intro hpolicy hmin hmax children
  exact Node.not_occurs_of_noSet (noSet_best setting e source n hpolicy hmin hmax) children

/-- The empty set lies between the letter of a bracket and a named class, and the lineage climbs for
a thousand generations by one mutation each. -/
theorem empty_set_between_brackets_never_kept :
    let t : SyntaxTree := ⟨[.literal "]", .set [.set [], .set [.literal ":alpha:"]]]⟩
    let setting : LineageSetting NodeSupply :=
      { vocabulary := .default, operators := ⟨0.15, 0.4, 0.95, 1.0⟩, mutations := ⟨1, 1, le_rfl⟩
        policy := .hillClimb }
    (∀ mode, Matcher.ofPattern t.toPattern mode = .error (.malformed t.toPattern)) ∧
      ∀ children, ¬ Occurs (.set children)
        ((new (Stream.ofSeed 7) : Lineage Stream SyntaxTree).stepped setting
          { params := {}, corpus := .ofProblem Problem.example } 1000).1.best.children := by
  intro t setting
  have hoccurs : Occurs (.set []) t.children :=
    .inside (List.mem_cons_of_mem _ List.mem_cons_self) (.here List.mem_cons_self)
  have hlineages := empty_sets_never_kept.2 Stream setting
    { params := {}, corpus := .ofProblem Problem.example } (Stream.ofSeed 7) 1000
  exact ⟨(empty_sets_never_kept.1 t hoccurs).1, hlineages.2 rfl rfl rfl⟩

end Lineage

end RegexInference
