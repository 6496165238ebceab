import RegexInference.Proofs.Genotype.Edits
import RegexInference.Proofs.Search.Generations

/-!
# Candidates stay within the alphabet

Every candidate of a lineage comes from the empty one by mutations, and a mutation adds one element
at most, drawn from the vocabulary.  So the best and the current candidate of a lineage are made of
what the alphabet offers, at every depth, and after `n` generations of up to `k` mutations they have
`n * k` elements at most.
-/

namespace RegexInference

open RegexInference.Random

variable {σ G V : Type} [Genotype G V]

/-! ## What mutations keep -/

/-- A property that candidates have after so many mutations, whatever was drawn. -/
structure Genotype.HoldsAfter (vocabulary : V) (P : ℕ → G → Prop) : Prop where
  empty : P 0 Genotype.empty
  mono : ∀ {m n g}, m ≤ n → P m g → P n g
  mutate : ∀ {σ : Type} [Source σ] (op : Operator) {n g}, P n g →
    Ensures (Genotype.mutate op vocabulary g : Draw σ G) (P (n + 1))

namespace Genotype.HoldsAfter

variable [Source σ] {vocabulary : V} {P : ℕ → G → Prop} (h : HoldsAfter vocabulary P)
include h

theorem mutateTimes (wheel : OperatorWheel) (count : ℕ) {n : ℕ} {g : G} (hg : P n g) :
    Ensures (Genotype.mutateTimes wheel vocabulary count g : Draw σ G) (P (n + count)) := by
  induction count generalizing n g with
  | zero => exact ensures_pure hg
  | succ count ih =>
      rw [show n + (count + 1) = n + 1 + count by omega]
      refine (ensures_true _).bind fun op _ => ?_
      exact (h.mutate op hg).bind fun next hnext => ih hnext

theorem trial (setting : LineageSetting V) (hvocabulary : setting.vocabulary = vocabulary)
    (l : Lineage σ G) {n : ℕ} (hbase : P n (l.base setting.policy)) :
    P (n + setting.mutations.max) (l.trial setting).1 := by
  subst hvocabulary
  have hdraw : Ensures (setting.mutations.draw : Draw σ ℕ) fun count =>
      setting.mutations.min ≤ count ∧ count ≤ setting.mutations.max :=
    ensures_between setting.mutations.min_le_max
  have htrial := hdraw.bind fun count hcount =>
    (h.mutateTimes setting.operators count hbase).mono fun next hnext =>
      h.mono (Nat.add_le_add_left hcount.2 n) hnext
  exact htrial l.source

end Genotype.HoldsAfter

/-! ## What lineages keep -/

namespace Lineage

/-- The best and the current candidate have what candidates have after this many mutations. -/
structure Keeps (P : ℕ → G → Prop) (count : ℕ) (l : Lineage σ G) : Prop where
  best : P count l.best
  current : P count l.current

theorem Keeps.base {P : ℕ → G → Prop} {count : ℕ} {l : Lineage σ G} (h : l.Keeps P count)
    (policy : Policy) : P count (l.base policy) := by
  cases policy with
  | hillClimb => exact h.best
  | drift => exact h.current

theorem current_accept (policy : Policy) (trial : G) (fitness : Float) (source : σ)
    (l : Lineage σ G) :
    (l.accept policy trial fitness source).2.current =
      match policy with | .drift => trial | .hillClimb => l.current := by
  unfold accept
  split_ifs <;> rfl

variable [Source σ] {vocabulary : V} {P : ℕ → G → Prop} (h : Genotype.HoldsAfter vocabulary P)
include h

theorem keeps_step (setting : LineageSetting V) (hvocabulary : setting.vocabulary = vocabulary)
    (e : Evaluator) (l : Lineage σ G) {count : ℕ} (hl : l.Keeps P count) :
    (l.step setting e).2.1.Keeps P (count + setting.mutations.max) := by
  have hlater : ∀ {g}, P count g → P (count + setting.mutations.max) g :=
    h.mono (Nat.le_add_right _ _)
  have htrial := h.trial setting hvocabulary l (hl.base setting.policy)
  constructor
  · rcases (step_accepts setting e l).best_cases with hbest | ⟨hbest, -⟩
    · rw [hbest]
      exact hlater hl.best
    · rw [hbest]
      exact htrial
  · have hcurrent : (l.step setting e).2.1.current =
        match setting.policy with | .drift => (l.trial setting).1 | .hillClimb => l.current :=
      current_accept _ _ _ _ l
    rw [hcurrent]
    split
    · exact htrial
    · exact hlater hl.current

theorem keeps_stepped (setting : LineageSetting V) (hvocabulary : setting.vocabulary = vocabulary)
    (e : Evaluator) (source : σ) (n : ℕ) :
    ((new source : Lineage σ G).stepped setting e n).1.Keeps P (n * setting.mutations.max) := by
  induction n with
  | zero =>
      rw [Nat.zero_mul]
      exact ⟨h.empty, h.empty⟩
  | succ n ih =>
      rw [Nat.succ_mul]
      exact keeps_step h setting hvocabulary _ _ ih

end Lineage

/-! ## What candidates are made of -/

/-- Every symbol is one of the alphabet. -/
def Sequence.IsOver (alphabet : Alphabet) (s : Sequence) : Prop :=
  ∀ symbol ∈ s.symbols, symbol ∈ alphabet.symbols

/-- The value of the node is in the vocabulary; a set has none. -/
def Node.HasValueIn (v : NodeSupply) : Node → Prop
  | char c => c ∈ v.chars
  | literal text => text ∈ v.literals
  | quantifier q => q ∈ v.quantifiers
  | set _ => True

/-- Every node, at any depth, has its value in the vocabulary. -/
def SyntaxTree.IsOver (v : NodeSupply) (t : SyntaxTree) : Prop :=
  ∀ node, Node.Occurs node t.children → node.HasValueIn v

theorem Sequence.holdsAfter (alphabet : Alphabet) :
    Genotype.HoldsAfter alphabet fun n (s : Sequence) =>
      s.IsOver alphabet ∧ Genotype.size s ≤ n where
  empty := ⟨fun _ hsymbol => absurd hsymbol List.not_mem_nil, Nat.le_refl 0⟩
  mono hmn hs := ⟨hs.1, hs.2.trans hmn⟩
  mutate op n s hs := by
    refine (ensures_mutate s op).mono fun next hnext => ⟨fun symbol hsymbol => ?_, ?_⟩
    · rcases hnext.mem symbol hsymbol with hold | hnew
      · exact hs.1 symbol hold
      · exact hnew
    · exact hnext.length.trans (Nat.succ_le_succ hs.2)

theorem SyntaxTree.holdsAfter (v : NodeSupply) :
    Genotype.HoldsAfter v fun n (t : SyntaxTree) =>
      t.IsOver v ∧ Genotype.size t ≤ n where
  empty := ⟨fun _ hnode => by cases hnode <;> contradiction, Nat.le_refl 0⟩
  mono hmn ht := ⟨ht.1, ht.2.trans hmn⟩
  mutate op n t ht := by
    refine (ensures_mutate op v t).mono fun next hnext => ⟨fun node hnode => ?_, ?_⟩
    · rcases hnext.occurs node hnode with hold | hoffered | hset
      · exact ht.1 node hold
      · cases node with
        | char | literal | quantifier => exact hoffered
        | set children => trivial
      · cases node with
        | char | literal | quantifier => cases hset
        | set children => trivial
    · exact hnext.length.trans (Nat.succ_le_succ ht.2)

/-- Whatever a lineage draws and however it is set, after any number of generations its best and its
current candidate are made of what the alphabet offers: a sequence of the symbols of the alphabet, a
tree at every depth of the values that its vocabulary has from the alphabet.  They are no longer than
the generations times the mutations that one generation may have. -/
theorem Lineage.candidates_stayInAlphabet [Source σ] (tokens : List String) (operators : OperatorWheel)
    (mutations : MutationRange) (policy : Policy) (e : Evaluator) (source : σ) (n : ℕ) :
    let alphabet := Alphabet.ofTokens tokens
    let walk (G : Type) {V : Type} [Genotype G V] : Lineage σ G :=
      ((new source : Lineage σ G).stepped
        { vocabulary := Genotype.vocabulary G alphabet, operators, mutations, policy } e n).1
    (walk Sequence).Keeps
        (fun length s => s.IsOver alphabet ∧ Genotype.size s ≤ length)
        ((walk Sequence).generation * mutations.max) ∧
      (walk SyntaxTree).Keeps
        (fun length t => t.IsOver (NodeSupply.ofAlphabet alphabet) ∧ Genotype.size t ≤ length)
        ((walk SyntaxTree).generation * mutations.max) := by
  intro alphabet walk
  have hgeneration : ∀ (G : Type) {V : Type} [Genotype G V], (walk G).generation = n := by
    intro G V _
    exact (generation_stepped _ e (new source) n).trans (Nat.zero_add n)
  rw [hgeneration, hgeneration]
  exact ⟨keeps_stepped (Sequence.holdsAfter alphabet)
      { vocabulary := alphabet, operators, mutations, policy } rfl e source n,
    keeps_stepped (SyntaxTree.holdsAfter (NodeSupply.ofAlphabet alphabet))
      { vocabulary := NodeSupply.ofAlphabet alphabet, operators, mutations, policy } rfl e source n⟩

end RegexInference
