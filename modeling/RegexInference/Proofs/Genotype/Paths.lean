import RegexInference.Proofs.Genotype.SingleEdits
import RegexInference.Genotype.SyntaxTree

/-!
# Paths in a tree

The paths that are listed for a tree are those that lead to a list of children.  When another list
is put where a path leads, the trees differ there and nowhere else: on the way down one set of each
list has other children, and its siblings stay as they are.
-/

namespace RegexInference.Node

variable {path : TreePath} {nodes found edited : List Node}

/-! ## Listed paths -/

theorem mem_listSetPaths {n : ℕ} :
    path ∈ listSetPaths n nodes ↔
      ∃ i rest children, path = (n + i) :: rest ∧ nodes[i]? = some (.set children) ∧
        (rest = [] ∨ rest ∈ listSetPaths 0 children) := by
  induction nodes generalizing n with
  | nil => simp [listSetPaths]
  | cons node nodes ih =>
      rw [listSetPaths, List.mem_append, ih]
      constructor
      · rintro (hhere | ⟨i, rest, children, rfl, hset, hrest⟩)
        · cases node with
          | char | literal | quantifier => simp [setPaths] at hhere
          | set children =>
              simp only [setPaths, List.mem_cons, List.mem_map] at hhere
              rcases hhere with rfl | ⟨rest, hrest, rfl⟩
              · exact ⟨0, [], children, rfl, rfl, Or.inl rfl⟩
              · exact ⟨0, rest, children, rfl, rfl, Or.inr hrest⟩
        · refine ⟨i + 1, rest, children, ?_, hset, hrest⟩
          rw [Nat.add_right_comm, Nat.add_assoc]
      · rintro ⟨i, rest, children, rfl, hset, hrest⟩
        cases i with
        | zero =>
            left
            obtain rfl : node = .set children := by simpa using hset
            rcases hrest with rfl | hrest
            · simp [setPaths]
            · simp [setPaths, hrest]
        | succ i =>
            right
            refine ⟨i, rest, children, ?_, by simpa using hset, hrest⟩
            rw [Nat.add_right_comm, Nat.add_assoc]

/-- A path is listed if and only if it leads to a list. -/
theorem mem_paths_iff :
    path ∈ [] :: listSetPaths 0 nodes ↔ ∃ found, listAt? path nodes = some found := by
  induction path generalizing nodes with
  | nil => simp [listAt?]
  | cons i path ih =>
      simp only [List.mem_cons, reduceCtorEq, false_or, listAt?]
      rw [mem_listSetPaths]
      constructor
      · rintro ⟨j, rest, children, hpath, hset, hrest⟩
        obtain ⟨rfl, rfl⟩ : i = j ∧ path = rest := by simpa using hpath
        rw [hset]
        exact ih.mp (List.mem_cons.mpr hrest)
      · rintro ⟨found, hfound⟩
        split at hfound
        · next children hset =>
          have hlisted := ih.mpr ⟨found, hfound⟩
          exact ⟨i, path, children, by simp, hset, List.mem_cons.mp hlisted⟩
        · cases hfound

/-! ## Another list at a path -/

/-- Two lists of nodes differ only where a path leads: there one has the list `found` and the other
the list `edited`. -/
inductive DiffersAt (found edited : List Node) : TreePath → List Node → List Node → Prop
  | here : DiffersAt found edited [] found edited
  | inside {i : ℕ} {path : TreePath} {old next children children' : List Node}
      (hset : old[i]? = some (.set children)) (hexchanges : Exchanges i (.set children') old next)
      (hinside : DiffersAt found edited path children children') :
      DiffersAt found edited (i :: path) old next

/-- If the list at the path is the same, so is the rest. -/
theorem DiffersAt.eq_of_same {old next : List Node} (h : DiffersAt found edited path old next)
    (hsame : edited = found) : next = old := by
  induction h with
  | here => exact hsame
  | @inside i path old next children children' hset hexchanges _ ih =>
      obtain rfl : children' = children := ih
      apply List.ext_getElem?
      intro j
      by_cases hj : j = i
      · rw [hj, hset, hexchanges.here]
      · exact hexchanges.elsewhere j hj

theorem differsAt_setListAt (hfound : listAt? path nodes = some found) :
    DiffersAt found edited path nodes (setListAt edited path nodes) := by
  induction path generalizing nodes with
  | nil =>
      obtain rfl : nodes = found := by simpa [listAt?] using hfound
      exact .here
  | cons i path ih =>
      unfold listAt? at hfound
      split at hfound
      · next children hset =>
        have hi : i < nodes.length := (List.getElem?_eq_some_iff.mp hset).1
        rw [setListAt, hset]
        exact .inside hset (exchanges_set hi) (ih hfound)
      · cases hfound

end RegexInference.Node
