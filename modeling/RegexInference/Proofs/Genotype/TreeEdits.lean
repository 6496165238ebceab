import RegexInference.Proofs.Genotype.Edits
import RegexInference.Proofs.Genotype.Paths

/-!
# Single edits of trees

A mutation of a tree edits one list of children, that of the root or of a set at any depth, at one
place, whatever is drawn.  A node that comes in is one that the vocabulary offers; a node that takes
the place of another one is of its kind, and differs from it as soon as the vocabulary allows.
-/

namespace RegexInference

open RegexInference.Random

variable {σ : Type} [Source σ] {v : NodeSupply}

/-! ## Drawn nodes -/

namespace NodeSupply

/-- What may be put in the place of a node: an offered node of its kind, and another one than before
if the vocabulary has another. -/
structure Substitutes (v : NodeSupply) (x y : Node) : Prop where
  offered : v.Offers y
  kind : y.kind = x.kind
  other : ∀ z, v.Offers z → z.kind = x.kind → z ≠ x → y ≠ x

theorem offers_char_iff {z : Node} :
    v.Offers z ∧ z.kind = .char ↔ ∃ c ∈ v.chars, Node.char c = z := by
  cases z <;> simp [Offers, Node.kind]

theorem offers_literal_iff {z : Node} :
    v.Offers z ∧ z.kind = .literal ↔ ∃ text ∈ v.literals, Node.literal text = z := by
  cases z <;> simp [Offers, Node.kind]

theorem offers_quantifier_iff {z : Node} :
    v.Offers z ∧ z.kind = .quantifier ↔ ∃ q ∈ v.quantifiers, Node.quantifier q = z := by
  cases z <;> simp [Offers, Node.kind]

section

variable {α : Type} [DecidableEq α] {values : List α} {f : α → Node} {kind : NodeKind}
  (hoffers : ∀ {z}, v.Offers z ∧ z.kind = kind ↔ ∃ x ∈ values, f x = z)
include hoffers

/-- The leaves of a kind are drawn by their values. -/
theorem ensures_leaf (present : Option α) :
    Ensures (do return (← chooseOther values present).map f : Draw σ (Option Node)) fun drawn =>
      (∀ y ∈ drawn, v.Offers y ∧ y.kind = kind) ∧
        (drawn = none → ∀ z, v.Offers z → z.kind ≠ kind) := by
  refine (ensures_chooseOther values present).bind fun drawn hdrawn => ensures_pure ?_
  constructor
  · intro y hy
    obtain ⟨x, hx, hfx⟩ := Option.map_eq_some_iff.mp hy
    exact hoffers.mpr ⟨x, hdrawn.1 x hx, hfx⟩
  · intro hnone z hz hkind
    obtain ⟨x, hx, -⟩ := hoffers.mp ⟨hz, hkind⟩
    rw [hdrawn.2 (Option.map_eq_none_iff.mp hnone)] at hx
    exact List.not_mem_nil hx

theorem ensures_leaf_ne {x : α} {z : Node} (hf : ∀ {x y}, f x = f y → x = y) (hz : v.Offers z)
    (hkind : z.kind = kind) (hne : z ≠ f x) :
    Ensures (do return (← chooseOther values (some x)).map f : Draw σ (Option Node))
      (· ≠ some (f x)) := by
  obtain ⟨y, hy, rfl⟩ := hoffers.mp ⟨hz, hkind⟩
  have hother : some x ≠ some y := by
    intro hsame
    exact hne (congrArg f (Option.some_inj.mp hsame.symm))
  refine (ensures_chooseOther_ne hy hother).bind fun drawn hdrawn => ensures_pure ?_
  intro hsame
  obtain ⟨y, hy, hfy⟩ := Option.map_eq_some_iff.mp hsame
  exact hdrawn (by rw [hy, hf hfy])

end

/-- A node is drawn of the kind that is asked for, unless no node of this kind is offered. -/
theorem ensures_drawOfKind_kind (v : NodeSupply) (kind : NodeKind) (current : Option Node) :
    Ensures (v.drawOfKind kind current : Draw σ (Option Node)) fun drawn =>
      (∀ y ∈ drawn, v.Offers y ∧ y.kind = kind) ∧
        (drawn = none → ∀ z, v.Offers z → z.kind ≠ kind) := by
  cases kind with
  | char => exact ensures_leaf offers_char_iff _
  | literal => exact ensures_leaf offers_literal_iff _
  | quantifier => exact ensures_leaf offers_quantifier_iff _
  | set =>
      apply ensures_pure
      constructor
      · rintro y ⟨⟩
        exact ⟨rfl, rfl⟩
      · simp

/-- A node that is drawn for another one differs from it if some offered node does. -/
theorem ensures_drawOfKind_ne {x z : Node} (hz : v.Offers z) (hkind : z.kind = x.kind)
    (hne : z ≠ x) :
    Ensures (v.drawOfKind x.kind (some x) : Draw σ (Option Node)) (· ≠ some x) := by
  cases x with
  | char c => exact ensures_leaf_ne offers_char_iff Node.char.inj hz hkind hne
  | literal text => exact ensures_leaf_ne offers_literal_iff Node.literal.inj hz hkind hne
  | quantifier q => exact ensures_leaf_ne offers_quantifier_iff Node.quantifier.inj hz hkind hne
  | set children =>
      -- The only set on offer is the empty one, and it is what is drawn.
      cases z with
      | set others =>
          obtain rfl : others = [] := hz
          apply ensures_pure
          intro hsame
          exact hne (Option.some_inj.mp hsame)
      | char | literal | quantifier => cases hkind

theorem ensures_drawOfKind_substitutes (v : NodeSupply) (x : Node) :
    Ensures (v.drawOfKind x.kind (some x) : Draw σ (Option Node)) fun drawn =>
      (∀ y ∈ drawn, v.Substitutes x y) ∧ (drawn = none → ∀ z, v.Offers z → z.kind ≠ x.kind) := by
  intro source
  obtain ⟨hdrawn, hnone⟩ := ensures_drawOfKind_kind v x.kind (some x) source
  refine ⟨fun y hy => ?_, hnone⟩
  obtain ⟨hoffered, hkind⟩ := hdrawn y hy
  refine ⟨hoffered, hkind, fun z hz hzkind hne hsame => ?_⟩
  subst hsame
  exact ensures_drawOfKind_ne hz hzkind hne source hy

theorem exists_offers_of_mem_kinds {kind : NodeKind} (hkind : kind ∈ v.kinds) :
    ∃ z, v.Offers z ∧ z.kind = kind := by
  unfold kinds at hkind
  cases kind with
  | char =>
      have hchars : v.chars ≠ [] := by
        intro hempty
        simp [hempty] at hkind
      exact ⟨.char (v.chars.head hchars), List.head_mem hchars, rfl⟩
  | literal =>
      have hliterals : v.literals ≠ [] := by
        intro hempty
        simp [hempty] at hkind
      exact ⟨.literal (v.literals.head hliterals), List.head_mem hliterals, rfl⟩
  | quantifier =>
      have hquantifiers : v.quantifiers ≠ [] := by
        intro hempty
        simp [hempty] at hkind
      exact ⟨.quantifier (v.quantifiers.head hquantifiers), List.head_mem hquantifiers, rfl⟩
  | set => exact ⟨.set [], rfl, rfl⟩

/-- A fresh node is of a kind that can be drawn, and is missing only if there is none. -/
theorem ensures_draw_kinds (v : NodeSupply) :
    Ensures (v.draw : Draw σ (Option Node)) fun drawn =>
      (∀ y ∈ drawn, y.kind ∈ v.kinds ∧ v.Offers y) ∧ (drawn = none → v.kinds = []) := by
  refine (ensures_choose v.kinds).bind fun chosen hchosen => ?_
  cases chosen with
  | none => exact ensures_pure ⟨by simp, fun _ => hchosen.2 rfl⟩
  | some kind =>
      have hkind : kind ∈ v.kinds := hchosen.1 kind rfl
      refine (ensures_drawOfKind_kind v kind none).mono fun drawn hdrawn => ⟨?_, ?_⟩
      · intro y hy
        obtain ⟨hoffered, rfl⟩ := hdrawn.1 y hy
        exact ⟨hkind, hoffered⟩
      · intro hnone
        obtain ⟨z, hz, hzkind⟩ := exists_offers_of_mem_kinds hkind
        exact absurd hzkind (hdrawn.2 hnone z hz)

end NodeSupply

/-! ## Edits of a list -/

namespace Node

variable (v : NodeSupply) (old edited : List Node)

/-- An offered node comes in, if there is a kind to draw. -/
inductive Inserts : Prop where
  | nothing (hkinds : v.kinds = []) (hsame : edited = old)
  | node (i : ℕ) (x : Node) (hplace : i ≤ old.length) (hgains : Gains i x old edited)
      (hkind : x.kind ∈ v.kinds) (hoffered : v.Offers x)

/-- A node comes in right in front of an equal one. -/
structure Doubles (i : ℕ) (x : Node) : Prop where
  original : old[i]? = some x
  gains : Gains i x old edited
  behind : edited[i + 1]? = some x

/-- What each operator may make of a list of children. -/
inductive EditsOnce : Operator → Prop where
  | insert (h : Inserts v old edited) : EditsOnce .insert
  | deleteOfEmpty (hempty : old = []) (hsame : edited = old) : EditsOnce .delete
  | delete (i : ℕ) (h : Loses i old edited) : EditsOnce .delete
  | replaceOfEmpty (hempty : old = []) (hsame : edited = old) : EditsOnce .replace
  | replaceByNothing (i : ℕ) (x : Node) (hold : old[i]? = some x)
      (hnone : ∀ z, v.Offers z → z.kind ≠ x.kind) (hsame : edited = old) : EditsOnce .replace
  | replace (i : ℕ) (x y : Node) (hold : old[i]? = some x) (h : Exchanges i y old edited)
      (hy : v.Substitutes x y) : EditsOnce .replace
  | duplicateOfEmpty (hempty : old = []) (h : Inserts v old edited) : EditsOnce .duplicate
  | duplicate (i : ℕ) (x : Node) (h : Doubles old edited i x) : EditsOnce .duplicate

variable {v old}

theorem ensures_insertDrawn_inserts :
    Ensures (insertDrawn v old : Draw σ (List Node)) (Inserts v old) := by
  refine (ensures_between (Nat.zero_le _)).bind fun i hi => ?_
  refine v.ensures_draw_kinds.bind fun drawn hdrawn => ?_
  cases drawn with
  | none => exact ensures_pure (.nothing (hdrawn.2 rfl) rfl)
  | some x =>
      obtain ⟨hkind, hoffered⟩ := hdrawn.1 x rfl
      exact ensures_pure (.node i x hi.2 (gains_insertIdx hi.2) hkind hoffered)

theorem doubles_insertIdx {i : ℕ} (hi : i < old.length) :
    Doubles old (old.insertIdx i old[i]) i old[i] where
  original := List.getElem?_eq_getElem hi
  gains := gains_insertIdx hi.le
  behind := by
    rw [List.getElem?_insertIdx_of_gt (Nat.lt_succ_self i)]
    exact List.getElem?_eq_getElem hi

theorem ensures_editList_editsOnce (op : Operator) :
    Ensures (editList op v old : Draw σ (List Node)) fun edited => EditsOnce v old edited op := by
  unfold editList
  cases op with
  | insert => exact ensures_insertDrawn_inserts.mono fun _ h => .insert h
  | delete =>
      dsimp only
      split_ifs with hempty
      · exact ensures_pure (.deleteOfEmpty (List.isEmpty_iff.mp hempty) rfl)
      · have hpos : 0 < old.length := List.length_pos_iff.mpr (by simpa using hempty)
        exact (ensures_below hpos).bind fun i hi => ensures_pure (.delete i ⟨hi, rfl⟩)
  | replace =>
      dsimp only
      split_ifs with hempty
      · exact ensures_pure (.replaceOfEmpty (List.isEmpty_iff.mp hempty) rfl)
      · have hpos : 0 < old.length := List.length_pos_iff.mpr (by simpa using hempty)
        refine (ensures_below hpos).bind fun i hi => ?_
        have hold : old[i]? = some old[i] := List.getElem?_eq_getElem hi
        rw [hold]
        refine (v.ensures_drawOfKind_substitutes old[i]).bind fun drawn hdrawn => ?_
        cases drawn with
        | none => exact ensures_pure (.replaceByNothing i _ hold (hdrawn.2 rfl) rfl)
        | some y => exact ensures_pure (.replace i _ y hold (exchanges_set hi) (hdrawn.1 y rfl))
  | duplicate =>
      dsimp only
      split_ifs with hempty
      · have hold : old = [] := List.isEmpty_iff.mp hempty
        exact ensures_insertDrawn_inserts.mono fun _ h => .duplicateOfEmpty hold h
      · have hpos : 0 < old.length := List.length_pos_iff.mpr (by simpa using hempty)
        refine (ensures_below hpos).bind fun i hi => ?_
        rw [List.getElem?_eq_getElem hi]
        exact ensures_pure (.duplicate i _ (doubles_insertIdx hi))

end Node

/-! ## Trees -/

/-- Whatever is drawn, a mutation of a tree edits the list of children that one of the listed paths
leads to, as its operator says, and leaves the rest of the tree as it is. -/
theorem SyntaxTree.mutate_editsOneList (op : Operator) (v : NodeSupply) (t : SyntaxTree) :
    Ensures (t.mutate op v : Draw σ SyntaxTree) fun next =>
      ∃ path ∈ t.listPaths, ∃ found edited,
        Node.DiffersAt found edited path t.children next.children ∧
          Node.EditsOnce v found edited op ∧ (edited = found → next = t) := by
  unfold mutate
  refine (ensures_choose t.listPaths).bind fun chosen hchosen => ?_
  cases chosen with
  | none => exact absurd (hchosen.2 rfl) (List.cons_ne_nil _ _)
  | some path =>
      have hlisted : path ∈ t.listPaths := hchosen.1 path rfl
      obtain ⟨found, hfound⟩ := Node.mem_paths_iff.mp hlisted
      dsimp only
      rw [hfound]
      refine (Node.ensures_editList_editsOnce op).bind fun edited hedits => ensures_pure ?_
      have hdiffers : Node.DiffersAt found edited path t.children
          (Node.setListAt edited path t.children) := Node.differsAt_setListAt hfound
      refine ⟨path, hlisted, found, edited, hdiffers, hedits, fun hsame => ?_⟩
      exact congrArg SyntaxTree.mk (hdiffers.eq_of_same hsame)

end RegexInference
