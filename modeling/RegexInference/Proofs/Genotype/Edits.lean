import RegexInference.Genotype.Sequence
import RegexInference.Proofs.Genotype.Unclosed
import RegexInference.Proofs.Random.Draws

/-!
# What edits make of candidates

Whatever is drawn, an edit of a list leaves members of the list and at most one that is new, which
comes from the vocabulary.  In a tree the list may be that of a set at any depth; the others stay as
they are.
-/

namespace RegexInference

open RegexInference.Random

variable {σ : Type} [Source σ]

/-! ## Lists -/

/-- An edited list has members of the old one and new ones with a property, and grew by one at
most. -/
structure Edits {α : Type} (IsNew : α → Prop) (old edited : List α) : Prop where
  mem : ∀ x ∈ edited, x ∈ old ∨ IsNew x
  length : edited.length ≤ old.length + 1

namespace Edits

variable {α : Type} {IsNew : α → Prop} (old : List α)

theorem refl : Edits IsNew old old := ⟨fun _ hx => Or.inl hx, Nat.le_succ _⟩

theorem eraseIdx (i : ℕ) : Edits IsNew old (old.eraseIdx i) where
  mem _ hx := Or.inl (List.mem_of_mem_eraseIdx hx)
  length := (List.length_eraseIdx_le old i).trans (Nat.le_succ _)

variable {old}

theorem insertIdx {i : ℕ} (hi : i ≤ old.length) {x : α} (hx : x ∈ old ∨ IsNew x) :
    Edits IsNew old (old.insertIdx i x) where
  mem y hy := by
    rcases (List.mem_insertIdx hi).mp hy with rfl | hold
    · exact hx
    · exact Or.inl hold
  length := by rw [List.length_insertIdx_of_le_length hi]

theorem set {i : ℕ} {x : α} (hx : IsNew x) : Edits IsNew old (old.set i x) where
  mem y hy := by
    rcases List.mem_or_eq_of_mem_set hy with hold | rfl
    · exact Or.inl hold
    · exact Or.inr hx
  length := by
    rw [List.length_set]
    exact Nat.le_succ _

end Edits

/-! ## Sequences -/

namespace Sequence

variable {alphabet : Alphabet} (s : Sequence)

/-- What an edit may put into a sequence: symbols of the alphabet. -/
def Follows (alphabet : Alphabet) (s next : Sequence) : Prop :=
  Edits (· ∈ alphabet.symbols) s.symbols next.symbols

theorem ensures_insertIdx (i : ℕ) :
    Ensures (s.insertIdx i alphabet : Draw σ Sequence) (Follows alphabet s) := by
  refine (ensures_chooseOther _ _).bind fun drawn hdrawn => ?_
  cases drawn with
  | none => exact ensures_pure (Edits.refl _)
  | some symbol =>
      exact ensures_pure (Edits.insertIdx (Nat.min_le_right _ _) (Or.inr (hdrawn.1 symbol rfl)))

theorem ensures_replaceIdx (i : ℕ) :
    Ensures (s.replaceIdx i alphabet : Draw σ Sequence) (Follows alphabet s) := by
  unfold replaceIdx
  cases s.symbols[i]? with
  | none => exact ensures_pure (Edits.refl _)
  | some current =>
      refine (ensures_chooseOther _ _).bind fun drawn hdrawn => ?_
      cases drawn with
      | none => exact ensures_pure (Edits.refl _)
      | some symbol => exact ensures_pure (Edits.set (hdrawn.1 symbol rfl))

theorem follows_duplicateIdx (i : ℕ) : s.Follows alphabet (s.duplicateIdx i) := by
  unfold duplicateIdx
  cases hsymbol : s.symbols[i]? with
  | none => exact Edits.refl _
  | some symbol =>
      have hi : i < s.symbols.length := (List.getElem?_eq_some_iff.mp hsymbol).1
      exact Edits.insertIdx hi.le (Or.inl (List.mem_of_getElem? hsymbol))

theorem ensures_mutate (op : Operator) :
    Ensures (s.mutate op alphabet : Draw σ Sequence) (Follows alphabet s) := by
  unfold mutate
  dsimp only
  split_ifs with hempty
  · cases op with
    | insert | duplicate => exact ensures_insertIdx s 0
    | delete | replace => exact ensures_pure (Edits.refl _)
  · cases op with
    | insert => exact (ensures_true _).bind fun i _ => ensures_insertIdx s i
    | delete => exact (ensures_true _).bind fun i _ => ensures_pure (Edits.eraseIdx _ i)
    | replace => exact (ensures_true _).bind fun i _ => ensures_replaceIdx s i
    | duplicate =>
        exact (ensures_true _).bind fun i _ => ensures_pure (follows_duplicateIdx s i)

end Sequence

/-! ## Lists of siblings -/

namespace NodeSupply

/-- The node can be drawn: its value is on offer, or it is a set without children. -/
def Offers (v : NodeSupply) : Node → Prop
  | .char c => c ∈ v.chars
  | .literal text => text ∈ v.literals
  | .quantifier q => q ∈ v.quantifiers
  | .set children => children = []

theorem ensures_drawOfKind (v : NodeSupply) (kind : NodeKind) (current : Option Node) :
    Ensures (v.drawOfKind kind current : Draw σ (Option Node)) fun drawn =>
      ∀ node ∈ drawn, v.Offers node := by
  -- Each leaf kind draws from the list of values on offer for it.
  have hvalue : ∀ {α : Type} [DecidableEq α] (values : List α) (present : Option α) (f : α → Node),
      (∀ x ∈ values, v.Offers (f x)) →
        Ensures (do return (← chooseOther values present).map f : Draw σ (Option Node)) fun drawn =>
          ∀ node ∈ drawn, v.Offers node := by
    intro α _ values present f hf
    refine (ensures_chooseOther values present).bind fun drawn hdrawn => ensures_pure ?_
    intro node hnode
    obtain ⟨x, hx, rfl⟩ := Option.map_eq_some_iff.mp hnode
    exact hf x (hdrawn.1 x hx)
  cases kind with
  | char => exact hvalue v.chars _ Node.char fun _ hc => hc
  | literal => exact hvalue v.literals _ Node.literal fun _ htext => htext
  | quantifier => exact hvalue v.quantifiers _ Node.quantifier fun _ hq => hq
  | set =>
      apply ensures_pure
      rintro node ⟨⟩
      exact rfl

theorem ensures_draw (v : NodeSupply) :
    Ensures (v.draw : Draw σ (Option Node)) fun drawn => ∀ node ∈ drawn, v.Offers node := by
  refine (ensures_true _).bind fun drawn _ => ?_
  cases drawn with
  | none => exact ensures_pure (by simp)
  | some kind => exact ensures_drawOfKind v kind none

end NodeSupply

namespace Node

variable (v : NodeSupply) (nodes : List Node)

theorem ensures_insertDrawn :
    Ensures (insertDrawn v nodes : Draw σ (List Node)) (Edits v.Offers nodes) := by
  refine (ensures_between (Nat.zero_le _)).bind fun i hi => ?_
  refine (NodeSupply.ensures_draw v).bind fun drawn hdrawn => ?_
  cases drawn with
  | none => exact ensures_pure (Edits.refl _)
  | some node => exact ensures_pure (Edits.insertIdx hi.2 (Or.inr (hdrawn node rfl)))

theorem ensures_editList (op : Operator) :
    Ensures (editList op v nodes : Draw σ (List Node)) (Edits v.Offers nodes) := by
  have hsame : Ensures (pure nodes : Draw σ (List Node)) (Edits v.Offers nodes) :=
    ensures_pure (Edits.refl _)
  unfold editList
  cases op with
  | insert => exact ensures_insertDrawn v nodes
  | delete =>
      dsimp only
      split_ifs with hempty
      · exact hsame
      · exact (ensures_true _).bind fun i _ => ensures_pure (Edits.eraseIdx _ i)
  | replace =>
      dsimp only
      split_ifs with hempty
      · exact hsame
      · refine (ensures_true _).bind fun i _ => ?_
        cases nodes[i]? with
        | none => exact hsame
        | some current =>
            refine (NodeSupply.ensures_drawOfKind v _ _).bind fun drawn hdrawn => ?_
            cases drawn with
            | none => exact hsame
            | some node => exact ensures_pure (Edits.set (hdrawn node rfl))
  | duplicate =>
      dsimp only
      split_ifs with hempty
      · exact ensures_insertDrawn v nodes
      · refine (ensures_true _).bind fun i _ => ?_
        cases hnode : nodes[i]? with
        | none => exact hsame
        | some node =>
            have hi : i < nodes.length := (List.getElem?_eq_some_iff.mp hnode).1
            exact ensures_pure (Edits.insertIdx hi.le (Or.inl (List.mem_of_getElem? hnode)))

/-! ## Lists anywhere in a tree -/

variable {v nodes} {node : Node} {path : TreePath} {found edited : List Node}

theorem Occurs.of_listAt? (hfound : listAt? path nodes = some found) (h : Occurs node found) :
    Occurs node nodes := by
  induction path generalizing nodes with
  | nil =>
      obtain rfl : nodes = found := Option.some_inj.mp hfound
      exact h
  | cons i path ih =>
      unfold listAt? at hfound
      split at hfound
      · next children hset => exact .inside (List.mem_of_getElem? hset) (ih hfound)
      · cases hfound

/-- What occurs behind an edit of one list occurred before, or occurs in the list as edited; only
the sets on the way to the list are others. -/
theorem Occurs.of_setListAt (h : Occurs node (setListAt edited path nodes)) :
    Occurs node nodes ∨ Occurs node edited ∨ node.kind = .set := by
  induction path generalizing nodes with
  | nil => exact Or.inr (Or.inl h)
  | cons i path ih =>
      unfold setListAt at h
      split at h
      · next children hset =>
        have hmem := List.mem_of_getElem? hset
        have hinner : Occurs node (setListAt edited path children) →
            Occurs node nodes ∨ Occurs node edited ∨ node.kind = .set :=
          fun hoccurs => (ih hoccurs).imp_left (.inside hmem)
        cases h with
        | here hnode =>
            rcases List.mem_or_eq_of_mem_set hnode with hold | rfl
            · exact Or.inl (.here hold)
            · exact Or.inr (Or.inr rfl)
        | inside hnode hinside =>
            rcases List.mem_or_eq_of_mem_set hnode with hold | heq
            · exact Or.inl (.inside hold hinside)
            · cases heq
              exact hinner hinside
      · exact Or.inl h

theorem length_setListAt_le (hfound : listAt? path nodes = some found)
    (hlength : edited.length ≤ found.length + 1) :
    (setListAt edited path nodes).length ≤ nodes.length + 1 := by
  cases path with
  | nil =>
      obtain rfl : nodes = found := Option.some_inj.mp hfound
      exact hlength
  | cons i path =>
      unfold setListAt
      split
      · rw [List.length_set]
        exact Nat.le_succ _
      · exact Nat.le_succ _

/-- A fresh set has nothing in it, so an edit brings in the drawn node and nothing below it. -/
theorem Occurs.of_edits (hedits : Edits v.Offers found edited) (h : Occurs node edited) :
    Occurs node found ∨ v.Offers node := by
  cases h with
  | here hmem => exact (hedits.mem node hmem).imp_left .here
  | @inside _ children hmem hinside =>
      rcases hedits.mem _ hmem with hold | hnew
      · exact Or.inl (.inside hold hinside)
      · obtain rfl : children = [] := hnew
        cases hinside <;> contradiction

end Node

/-! ## Trees -/

namespace SyntaxTree

/-- What an edit may make of a tree: no node comes in but sets and what the vocabulary offers, and
the root has one child more at most. -/
structure Follows (v : NodeSupply) (t next : SyntaxTree) : Prop where
  occurs : ∀ node, Node.Occurs node next.children →
    Node.Occurs node t.children ∨ v.Offers node ∨ node.kind = .set
  length : next.children.length ≤ t.children.length + 1

theorem Follows.refl (v : NodeSupply) (t : SyntaxTree) : t.Follows v t :=
  ⟨fun _ h => Or.inl h, Nat.le_succ _⟩

theorem follows_setListAt {v : NodeSupply} {t : SyntaxTree} {path : TreePath}
    {found edited : List Node} (hfound : Node.listAt? path t.children = some found)
    (hedits : Edits v.Offers found edited) :
    t.Follows v ⟨Node.setListAt edited path t.children⟩ where
  occurs node h := by
    rcases h.of_setListAt with hold | hedited | hset
    · exact Or.inl hold
    · exact (hedited.of_edits hedits).imp (.of_listAt? hfound) Or.inl
    · exact Or.inr (Or.inr hset)
  length := Node.length_setListAt_le hfound hedits.length

theorem ensures_mutate (op : Operator) (v : NodeSupply) (t : SyntaxTree) :
    Ensures (t.mutate op v : Draw σ SyntaxTree) (t.Follows v) := by
  have hsame : Ensures (pure t : Draw σ SyntaxTree) (t.Follows v) := ensures_pure (.refl v t)
  refine (ensures_true _).bind fun drawn _ => ?_
  cases drawn with
  | none => exact hsame
  | some path =>
      dsimp only
      cases hfound : Node.listAt? path t.children with
      | none => exact hsame
      | some found =>
          refine (Node.ensures_editList v found op).bind fun edited hedits => ?_
          exact ensures_pure (follows_setListAt hfound hedits)

end SyntaxTree

end RegexInference
