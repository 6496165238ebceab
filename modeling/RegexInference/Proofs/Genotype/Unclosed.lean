import RegexInference.Fitness
import RegexInference.Proofs.Genotype.Glyphs

/-!
# Brackets that are never closed

The closing bracket of a set without children is read as a character, so the set is left open.
Every bracket behind it then closes one set less than it should, and the text ends within a bracket
whatever else it holds: names of classes take a pair of brackets with them, and escaped brackets
count for nothing.  So a tree that has a set without children anywhere does not compile.
-/

namespace RegexInference

open Regex

/-! ## Counting open brackets -/

namespace Glyph

/-- How many brackets are open behind some glyphs, if so many are open in front of them.  A closing
bracket right behind an opening one is a character. -/
def depthBehind : ℕ → List Glyph → ℕ
  | d, [] => d
  | d, .opening :: .closing :: gs => depthBehind (d + 1) gs
  | d, .opening :: gs => depthBehind (d + 1) gs
  | d, .closing :: gs => depthBehind (d - 1) gs
  | d, .sign _ :: gs => depthBehind d gs

theorem depthBehind_opening (d : ℕ) (gs : List Glyph) :
    depthBehind d (.opening :: gs) = depthBehind (d + 1) (enter gs).2 := by
  rcases gs with _ | ⟨_ | _ | s, gs⟩ <;> rfl

theorem depthBehind_letters (d : ℕ) (cs : List Char) (gs : List Glyph) :
    depthBehind d (letters cs ++ gs) = depthBehind d gs := by
  induction cs with
  | nil => rfl
  | cons c cs ih => exact ih

theorem depthBehind_splitName (d : ℕ) (gs : List Glyph) :
    depthBehind d gs = depthBehind d (splitName gs).2 := by
  fun_induction splitName gs with
  | case1 gs => rfl
  | case2 c gs hc ih => exact ih
  | case3 gs hletter => rfl

theorem depthBehind_named? {gs left : List Glyph} {set : Unicode.CodeSet} (d : ℕ)
    (h : named? gs = some (set, left)) : depthBehind d (.opening :: gs) = depthBehind d left := by
  unfold named? at h
  split at h
  · next gs =>
    split at h
    · next name behind hsplit =>
      obtain ⟨found, -, heq⟩ := Option.map_eq_some_iff.mp h
      cases heq
      have hname := depthBehind_splitName (d + 1) gs
      rw [hsplit] at hname
      exact hname
    · cases h
  · cases h

/-- Where a bracket class was read, all brackets are closed that were opened. -/
theorem depthBehind_of_readClass {fuel : ℕ} {frame : ClassFrame} {outer : List ClassFrame}
    {gs left : List Glyph} {part : ClassPart}
    (h : readClass fuel frame outer gs = some (part, left)) :
    depthBehind (outer.length + 1) gs = depthBehind 0 left := by
  induction fuel generalizing frame outer gs with
  | zero => cases h
  | succ fuel ih =>
      rcases gs with _ | ⟨_ | _ | s, gs⟩
      · cases h
      · rw [readClass] at h
        cases hnamed : named? gs with
        | some named =>
            rw [hnamed] at h
            exact (depthBehind_named? _ hnamed).trans (ih h)
        | none =>
            rw [hnamed] at h
            rw [depthBehind_opening]
            exact ih h
      · rw [readClass] at h
        obtain ⟨closed, -, h⟩ := Option.bind_eq_some_iff.mp h
        cases outer with
        | nil =>
            cases h
            rfl
        | cons parent others =>
            have hrest := ih h
            exact hrest
      · rw [readClass] at h
        obtain ⟨set, -, h⟩ := Option.bind_eq_some_iff.mp h
        have hrest := ih h
        exact hrest

theorem depthBehind_of_readTokens {tail : List Char} (htail : Behind tail) {fuel : ℕ}
    {gs : List Glyph} {tokens : List Token}
    (h : readTokens fuel {} (written gs ++ tail) = some tokens) : depthBehind 0 gs = 0 := by
  induction fuel generalizing gs tokens with
  | zero => cases h
  | succ fuel ih =>
      have hplain : ∀ g gs, g ≠ .opening →
          readTokens (fuel + 1) {} (written (g :: gs) ++ tail) = some tokens →
            depthBehind 0 gs = 0 := by
        intro g gs hg h
        obtain ⟨token, htoken⟩ := exists_readTokens_glyph hg (unmarked_written gs htail)
        rw [written_cons, List.append_assoc, htoken] at h
        obtain ⟨rest, hrest, -⟩ := Option.map_eq_some_iff.mp h
        exact ih hrest
      rcases gs with _ | ⟨_ | _ | s, gs⟩
      · rfl
      · rw [readTokens_opening htail] at h
        obtain ⟨⟨part, left⟩, hclass, h⟩ := Option.bind_eq_some_iff.mp h
        obtain ⟨rest, hrest, -⟩ := Option.map_eq_some_iff.mp h
        rw [depthBehind_opening]
        exact (depthBehind_of_readClass hclass).trans (ih hrest)
      · exact hplain .closing gs (by simp) h
      · exact hplain (.sign s) gs (by simp) h

end Glyph

/-! ## Sets without children -/

namespace Node

/-- The node is one of these or, at any depth, a child of one of their sets. -/
inductive Occurs (node : Node) : List Node → Prop where
  | here {nodes : List Node} (hmem : node ∈ nodes) : Occurs node nodes
  | inside {nodes children : List Node} (hmem : Node.set children ∈ nodes)
      (hinside : Occurs node children) : Occurs node nodes

mutual

/-- How many closing brackets of a node are read as characters. -/
def unclosed : Node → ℕ
  | set children => (if listGlyphs children = [] then 1 else 0) + listUnclosed children
  | _ => 0

def listUnclosed : List Node → ℕ
  | [] => 0
  | node :: rest => node.unclosed + listUnclosed rest

end

theorem listGlyphs_head_ne_closing {nodes : List Node} {g : Glyph} {gs : List Glyph}
    (h : listGlyphs nodes = g :: gs) : g ≠ .closing := by
  induction nodes with
  | nil => cases h
  | cons node rest ih =>
      rw [listGlyphs] at h
      cases node with
      | char c =>
          cases h
          simp
      | literal text =>
          rw [glyphs] at h
          cases htext : text.toList with
          | nil =>
              rw [htext] at h
              exact ih h
          | cons c cs =>
              rw [htext] at h
              cases h
              simp
      | quantifier q =>
          cases h
          simp
      | set children =>
          cases h
          simp

open Glyph

theorem enter_listGlyphs {nodes : List Node} (h : listGlyphs nodes ≠ []) (gs : List Glyph) :
    enter (listGlyphs nodes ++ gs) = ({ negated := false }, listGlyphs nodes ++ gs) := by
  obtain ⟨g, rest, hglyphs⟩ := List.exists_cons_of_ne_nil h
  rw [hglyphs]
  cases g with
  | opening => rfl
  | closing => exact absurd rfl (listGlyphs_head_ne_closing hglyphs)
  | sign s => rfl

mutual

theorem depthBehind_glyphs (node : Node) (d : ℕ) (gs : List Glyph) :
    depthBehind d (node.glyphs ++ gs) = depthBehind (d + node.unclosed) gs := by
  cases node with
  | char c => rfl
  | literal text => exact depthBehind_letters d text.toList gs
  | quantifier q => rfl
  | set children =>
      have hchildren := depthBehind_listGlyphs children
      rw [glyphs, List.cons_append, List.append_assoc, depthBehind_opening, unclosed]
      by_cases hglyphs : listGlyphs children = []
      · -- Nothing is written, so nothing is left open by the children either.
        have hnone := hchildren 0 []
        rw [hglyphs] at hnone
        have hzero : listUnclosed children = 0 := by simpa [depthBehind] using hnone.symm
        rw [hglyphs, hzero]
        rfl
      · rw [enter_listGlyphs hglyphs, hchildren, if_neg hglyphs]
        change depthBehind (d + 1 + listUnclosed children - 1) gs = _
        congr 1
        omega

theorem depthBehind_listGlyphs (nodes : List Node) (d : ℕ) (gs : List Glyph) :
    depthBehind d (listGlyphs nodes ++ gs) = depthBehind (d + listUnclosed nodes) gs := by
  cases nodes with
  | nil => rfl
  | cons node rest =>
      rw [listGlyphs, List.append_assoc, depthBehind_glyphs node, depthBehind_listGlyphs rest,
        listUnclosed, Nat.add_assoc]

end

theorem unclosed_le_of_mem {node : Node} {nodes : List Node} (hmem : node ∈ nodes) :
    node.unclosed ≤ listUnclosed nodes := by
  induction hmem with
  | head rest => exact Nat.le_add_right _ _
  | tail other _ ih => exact ih.trans (Nat.le_add_left _ _)

/-- A set without children leaves a bracket open, however deep it lies. -/
theorem Occurs.listUnclosed_pos {nodes : List Node} (h : Occurs (.set []) nodes) :
    0 < listUnclosed nodes := by
  induction h with
  | here hmem => exact unclosed_le_of_mem hmem
  | inside hmem _ ih =>
      have hle := unclosed_le_of_mem hmem
      rw [unclosed] at hle
      omega

end Node

/-! ## Compiling -/

namespace SyntaxTree

variable {t : SyntaxTree} (h : Node.Occurs (.set []) t.children)
include h

theorem tokens?_eq_none : tokens? t.toPattern.toList = none := by
  have hdepth := Node.depthBehind_listGlyphs t.children 0 []
  rw [List.append_nil, Nat.zero_add] at hdepth
  rw [toPattern, Node.toList_listToPattern]
  cases htokens : tokens? (Glyph.written (Node.listGlyphs t.children)) with
  | none => rfl
  | some tokens =>
      rw [← List.append_nil (Glyph.written _)] at htokens
      have hzero := hdepth.symm.trans (Glyph.depthBehind_of_readTokens (Or.inl rfl) htokens)
      exact absurd hzero h.listUnclosed_pos.ne'

/-- The tree is no pattern in either mode. -/
theorem ofPattern_eq_malformed (mode : MatchMode) :
    Matcher.ofPattern t.toPattern mode = .error (.malformed t.toPattern) := by
  have htokens := tokens?_eq_none h
  have hempty : t.toPattern.isEmpty = false := by
    rw [← Bool.not_eq_true, String.isEmpty_iff]
    intro hempty
    rw [hempty] at htokens
    cases htokens
  have hparse : parse? t.toPattern.toList = none := by
    unfold parse?
    rw [htokens]
    rfl
  unfold Matcher.ofPattern Matcher.programOf
  rw [hempty, hparse]
  rfl

theorem score_eq_neg_infinity (params : FitnessParams) (corpus : Corpus) :
    Fitness.score params corpus t.toPattern = -Fitness.infinity := by
  unfold Fitness.score
  rw [ofPattern_eq_malformed h]

end SyntaxTree

end RegexInference
