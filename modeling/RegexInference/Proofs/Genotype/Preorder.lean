import Mathlib.Data.List.Nodup
import RegexInference.Proofs.Genotype.Paths
import RegexInference.Proofs.Random.Draws

/-!
# The order of the paths in a tree

The listed paths visit the lists of a tree in preorder: the root's first, each set before those
inside it, and these before its next sibling.  In the order of the paths themselves they go up, so
that none is listed twice.  One walk that keeps a single stack for the path it is at collects them.
-/

namespace RegexInference

open RegexInference.Random

namespace Node

/-! ## Sets and where they are -/

/-- A path leads to a set with these children. -/
inductive SetAt (found : List Node) : TreePath → List Node → Prop
  | here {i : ℕ} {nodes : List Node} (hset : nodes[i]? = some (.set found)) : SetAt found [i] nodes
  | inside {i : ℕ} {path : TreePath} {nodes children : List Node}
      (hset : nodes[i]? = some (.set children)) (hinside : SetAt found path children) :
      SetAt found (i :: path) nodes

mutual

/-- The lists of children in a node, each before those inside it. -/
def childLists : Node → List (List Node)
  | set children => children :: listChildLists children
  | _ => []

def listChildLists : List Node → List (List Node)
  | [] => []
  | node :: rest => node.childLists ++ listChildLists rest

end

mutual

/-- Adds the paths to the list of a node with index `i` and to those below it.  The index is on the
stack as long as the walk is below the node. -/
def collectPaths (i : ℕ) (stack : TreePath) (out : List TreePath) :
    Node → TreePath × List TreePath
  | set children =>
    let inner := stack ++ [i]
    let (left, out) := listCollectPaths 0 inner (out ++ [inner]) children
    (left.dropLast, out)
  | _ => (stack, out)

def listCollectPaths (i : ℕ) (stack : TreePath) (out : List TreePath) :
    List Node → TreePath × List TreePath
  | [] => (stack, out)
  | node :: rest =>
    let (stack, out) := node.collectPaths i stack out
    listCollectPaths (i + 1) stack out rest

end

/-! ## One walk -/

mutual

/-- The stack is left as it was, and the paths that are added are the listed ones below it. -/
theorem collectPaths_eq (node : Node) (i : ℕ) (stack : TreePath) (out : List TreePath) :
    node.collectPaths i stack out = (stack, out ++ (node.setPaths i).map (stack ++ ·)) := by
  cases node with
  | char c | literal text | quantifier q => simp [collectPaths, setPaths]
  | set children =>
      rw [collectPaths]
      simp only [listCollectPaths_eq children, List.dropLast_concat, setPaths]
      simp [Function.comp_def]

theorem listCollectPaths_eq (nodes : List Node) (i : ℕ) (stack : TreePath) (out : List TreePath) :
    listCollectPaths i stack out nodes =
      (stack, out ++ (listSetPaths i nodes).map (stack ++ ·)) := by
  cases nodes with
  | nil => simp [listCollectPaths, listSetPaths]
  | cons node rest =>
      rw [listCollectPaths, collectPaths_eq node]
      simp only [listCollectPaths_eq rest, listSetPaths, List.map_append, List.append_assoc]

end

/-! ## Where the paths lead -/

variable {path : TreePath} {nodes found children : List Node} {i : ℕ}

theorem listAt?_cons (hset : nodes[i]? = some (.set children)) (path : TreePath) :
    listAt? (i :: path) nodes = listAt? path children := by
  rw [listAt?, hset]

/-- A path leads to the list of the root or to that of a set. -/
theorem listAt?_eq_some_iff :
    listAt? path nodes = some found ↔ path = [] ∧ found = nodes ∨ SetAt found path nodes := by
  constructor
  · intro hfound
    induction path generalizing nodes with
    | nil =>
        obtain rfl : nodes = found := Option.some_inj.mp hfound
        exact Or.inl ⟨rfl, rfl⟩
    | cons i path ih =>
        unfold listAt? at hfound
        split at hfound
        · next children hset =>
          rcases ih hfound with ⟨rfl, rfl⟩ | hinside
          · exact Or.inr (.here hset)
          · exact Or.inr (.inside hset hinside)
        · cases hfound
  · rintro (⟨rfl, rfl⟩ | hset)
    · rfl
    · induction hset with
      | here hset => exact listAt?_cons hset []
      | inside hset _ ih => rw [listAt?_cons hset, ih]

mutual

/-- The listed paths lead to the lists of children, one after the other. -/
theorem map_listAt?_setPaths (node : Node) {nodes : List Node} {i : ℕ}
    (hnode : nodes[i]? = some node) :
    (node.setPaths i).map (listAt? · nodes) = node.childLists.map some := by
  cases node with
  | char | literal | quantifier => rfl
  | set children =>
      have hinside := map_listAt?_listSetPaths children (List.drop_zero (l := children))
      rw [setPaths, childLists, List.map_cons, List.map_cons, listAt?_cons hnode, listAt?,
        List.map_map, ← hinside]
      exact congrArg _ (List.map_congr_left fun path _ => listAt?_cons hnode path)

theorem map_listAt?_listSetPaths (rest : List Node) {nodes : List Node} {n : ℕ}
    (hrest : nodes.drop n = rest) :
    (listSetPaths n rest).map (listAt? · nodes) = (listChildLists rest).map some := by
  cases rest with
  | nil => rfl
  | cons node rest =>
      have hnode : nodes[n]? = some node := by
        rw [← List.head?_drop, hrest, List.head?_cons]
      have hbehind : nodes.drop (n + 1) = rest := by
        rw [← List.tail_drop, hrest, List.tail_cons]
      rw [listSetPaths, listChildLists, List.map_append, List.map_append,
        map_listAt?_setPaths node hnode, map_listAt?_listSetPaths rest hbehind]

end

/-! ## Their order -/

theorem exists_of_mem_setPaths {node : Node} (hpath : path ∈ node.setPaths i) :
    ∃ rest, path = i :: rest := by
  cases node with
  | char | literal | quantifier => exact absurd hpath List.not_mem_nil
  | set children =>
      rcases List.mem_cons.mp hpath with rfl | hinside
      · exact ⟨[], rfl⟩
      · obtain ⟨rest, -, rfl⟩ := List.mem_map.mp hinside
        exact ⟨rest, rfl⟩

mutual

theorem setPaths_sorted (node : Node) (i : ℕ) : (node.setPaths i).Pairwise (· < ·) := by
  cases node with
  | char | literal | quantifier => exact List.Pairwise.nil
  | set children =>
      rw [setPaths, List.pairwise_cons]
      constructor
      · -- A set is in front of those inside it, whose paths go on.
        intro path hpath
        obtain ⟨inner, hinner, rfl⟩ := List.mem_map.mp hpath
        obtain ⟨j, rest, -, rfl, -, -⟩ := mem_listSetPaths.mp hinner
        exact List.cons_lt_cons_iff.mpr (Or.inr ⟨rfl, List.nil_lt_cons _ _⟩)
      · refine List.Pairwise.map _ (fun a b hlt => ?_) (listSetPaths_sorted children 0)
        exact List.cons_lt_cons_iff.mpr (Or.inr ⟨rfl, hlt⟩)

theorem listSetPaths_sorted (nodes : List Node) (n : ℕ) :
    (listSetPaths n nodes).Pairwise (· < ·) := by
  cases nodes with
  | nil => exact List.Pairwise.nil
  | cons node rest =>
      rw [listSetPaths, List.pairwise_append]
      refine ⟨setPaths_sorted node n, listSetPaths_sorted rest (n + 1), fun a ha b hb => ?_⟩
      obtain ⟨below, rfl⟩ := exists_of_mem_setPaths ha
      obtain ⟨j, beyond, -, rfl, -, -⟩ := mem_listSetPaths.mp hb
      exact List.cons_lt_cons_iff.mpr (Or.inl (by omega))

end

end Node

/-! ## Trees -/

namespace SyntaxTree

open RegexInference.Node

/-- The paths of a tree lead to its lists of children, to each by one path. -/
structure ListsSets (t : SyntaxTree) : Prop where
  collected : listCollectPaths 0 [] [[]] t.children = ([], t.listPaths)
  nodup : t.listPaths.Nodup
  preorder : t.listPaths.Pairwise (· < ·)
  mem_iff : ∀ path, path ∈ t.listPaths ↔ path = [] ∨ ∃ found, SetAt found path t.children
  leads : t.listPaths.map (listAt? · t.children) =
    (t.children :: listChildLists t.children).map some
  found_iff : ∀ path found, listAt? path t.children = some found ↔
    path = [] ∧ found = t.children ∨ SetAt found path t.children

/-- A mutation edits the list that the drawn path leads to, and puts it back there. -/
structure EditsDrawnList {σ : Type} [Source σ] (op : Operator) (v : NodeSupply) (t : SyntaxTree)
    (source : σ) (path : TreePath) (found : List Node) (behind : σ) : Prop where
  drawn : (choose t.listPaths).run source = (some path, behind)
  listed : path ∈ t.listPaths
  leads : listAt? path t.children = some found
  edited : (t.mutate op v).run source =
    ((editList op v found).run behind).map (fun edited => ⟨setListAt edited path t.children⟩) id

theorem listPaths_sorted (t : SyntaxTree) : t.listPaths.Pairwise (· < ·) := by
  rw [listPaths, List.pairwise_cons]
  refine ⟨fun path hpath => ?_, listSetPaths_sorted t.children 0⟩
  obtain ⟨i, rest, -, rfl, -, -⟩ := mem_listSetPaths.mp hpath
  exact List.nil_lt_cons _ _

theorem mem_listPaths_iff {t : SyntaxTree} {path : TreePath} :
    path ∈ t.listPaths ↔ path = [] ∨ ∃ found, SetAt found path t.children := by
  rw [listPaths, mem_paths_iff]
  constructor
  · rintro ⟨found, hfound⟩
    rcases listAt?_eq_some_iff.mp hfound with ⟨hroot, -⟩ | hset
    · exact Or.inl hroot
    · exact Or.inr ⟨found, hset⟩
  · rintro (rfl | ⟨found, hset⟩)
    · exact ⟨t.children, rfl⟩
    · exact ⟨found, listAt?_eq_some_iff.mpr (Or.inr hset)⟩

theorem listsSets (t : SyntaxTree) : t.ListsSets where
  collected := by simp [listCollectPaths_eq, listPaths]
  nodup := by
    apply t.listPaths_sorted.imp
    intro a b hlt hsame
    rw [hsame] at hlt
    exact List.lt_irrefl _ hlt
  preorder := t.listPaths_sorted
  mem_iff _ := mem_listPaths_iff
  leads := by
    rw [listPaths, List.map_cons, List.map_cons, map_listAt?_listSetPaths _ List.drop_zero]
    rfl
  found_iff _ _ := listAt?_eq_some_iff

theorem exists_editsDrawnList {σ : Type} [Source σ] (op : Operator) (v : NodeSupply)
    (t : SyntaxTree) (source : σ) :
    ∃ path found behind, EditsDrawnList op v t source path found behind := by
  obtain ⟨hmem, hsome⟩ := ensures_choose t.listPaths source
  cases hdrawn : (choose t.listPaths).run source with
  | mk chosen behind =>
      rw [hdrawn] at hmem hsome
      cases chosen with
      | none => exact absurd (hsome rfl) (List.cons_ne_nil _ _)
      | some path =>
          have hlisted : path ∈ t.listPaths := hmem path rfl
          obtain ⟨found, hfound⟩ := mem_paths_iff.mp hlisted
          refine ⟨path, found, behind, hdrawn, hlisted, hfound, ?_⟩
          unfold mutate
          rw [StateT.run_bind, hdrawn]
          dsimp only [bind]
          rw [hfound]
          rfl

/-- The listed paths are those that lead to a list of children, each once and in preorder, so that
no mutation is lost for a path that leads nowhere. -/
theorem listPaths_visitSets (t : SyntaxTree) :
    t.ListsSets ∧ ∀ (σ : Type) [Source σ] (op : Operator) (v : NodeSupply) (source : σ),
      ∃ path found behind, EditsDrawnList op v t source path found behind :=
  ⟨t.listsSets, fun _ _ op v source => exists_editsDrawnList op v t source⟩

example : (SyntaxTree.mk [.literal "a", .set [.literal "b", .set []], .set []]).listPaths =
    [[], [1], [1, 1], [2]] := by decide

end SyntaxTree

end RegexInference
