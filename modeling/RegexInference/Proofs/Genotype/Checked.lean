import Mathlib.Tactic.IntervalCases
import RegexInference.Genotype.Sequence
import RegexInference.Genotype.SyntaxTree
import RegexInference.Proofs.Random.Checked

/-!
# Mutations with every bound checked

The edits of both representations, and the spin of the wheel, once more: ranges and places are
checked wherever a draw or an edit needs them to be there.  None of these checks ever fails, for any
candidate, any vocabulary and any source.
-/

namespace RegexInference

open RegexInference.Random

variable {σ : Type} [Source σ]

/-! ## The wheel -/

/-- The operators in the order of their sections. -/
def Operator.table : List Operator := [.insert, .delete, .replace, .duplicate]

namespace OperatorWheel

/-- How many running sums are passed over by a word. -/
def passed (wheel : OperatorWheel) (word : UInt64) : ℕ :=
  ([wheel.first, wheel.second, wheel.third].filter (· ≤ fraction word * wheel.scale)).length

/-- Looks the operator up in the table. -/
def checkedSpin (wheel : OperatorWheel) : CheckedDraw σ Operator := do
  let word ← CheckedDraw.ofDraw word64
  CheckedDraw.get Operator.table (wheel.passed word)

theorem pick_eq (wheel : OperatorWheel) (word : UInt64) :
    wheel.pick word =
      match wheel.passed word with
      | 0 => .insert
      | 1 => .delete
      | 2 => .replace
      | _ => .duplicate := rfl

/-- There are three running sums, so the table has an operator for every word. -/
theorem getElem?_passed (wheel : OperatorWheel) (word : UInt64) :
    Operator.table[wheel.passed word]? = some (wheel.pick word) := by
  have hle : wheel.passed word ≤ 3 := List.length_filter_le _ _
  rw [pick_eq]
  generalize wheel.passed word = n at hle ⊢
  interval_cases n <;> rfl

theorem yields_checkedSpin (wheel : OperatorWheel) :
    (wheel.checkedSpin : CheckedDraw σ Operator).Yields wheel.spin := by
  rw [spin, map_eq_pure_bind]
  refine (CheckedDraw.yields_ofDraw _).bind (ensures_true _) fun word _ => ?_
  rw [CheckedDraw.get_of_getElem? (getElem?_passed wheel word)]
  exact CheckedDraw.yields_pure _

end OperatorWheel

/-! ## Sequences -/

namespace Sequence

def checkedInsertIdx (i : ℕ) (alphabet : Alphabet) (s : Sequence) : CheckedDraw σ Sequence := do
  let i := min i s.symbols.length
  match ← CheckedDraw.chooseOther alphabet.symbols s.symbols[i]? with
  | none => return s
  | some symbol => return ⟨← CheckedDraw.insertIdx i symbol s.symbols⟩

def checkedEraseIdx (i : ℕ) (s : Sequence) : CheckedDraw σ Sequence :=
  if i < s.symbols.length then return ⟨← CheckedDraw.eraseIdx i s.symbols⟩ else return s

def checkedReplaceIdx (i : ℕ) (alphabet : Alphabet) (s : Sequence) : CheckedDraw σ Sequence :=
  match s.symbols[i]? with
  | none => return s
  | some current => do
    match ← CheckedDraw.chooseOther alphabet.symbols (some current) with
    | none => return s
    | some symbol => return ⟨← CheckedDraw.set i symbol s.symbols⟩

def checkedDuplicateIdx (i : ℕ) (s : Sequence) : CheckedDraw σ Sequence :=
  match s.symbols[i]? with
  | none => return s
  | some symbol => return ⟨← CheckedDraw.insertIdx i symbol s.symbols⟩

def checkedMutate (op : Operator) (alphabet : Alphabet) (s : Sequence) :
    CheckedDraw σ Sequence :=
  let n := s.symbols.length
  if n = 0 then
    match op with
    | .insert | .duplicate => s.checkedInsertIdx 0 alphabet
    | .delete | .replace => return s
  else
    match op with
    | .insert => do
      let i ← CheckedDraw.between 0 n
      s.checkedInsertIdx i alphabet
    | .delete => do
      let i ← CheckedDraw.below n
      s.checkedEraseIdx i
    | .replace => do
      let i ← CheckedDraw.below n
      s.checkedReplaceIdx i alphabet
    | .duplicate => do
      let i ← CheckedDraw.below n
      s.checkedDuplicateIdx i

theorem yields_checkedInsertIdx (i : ℕ) (alphabet : Alphabet) (s : Sequence) :
    (s.checkedInsertIdx i alphabet : CheckedDraw σ Sequence).Yields (s.insertIdx i alphabet) := by
  refine (CheckedDraw.yields_chooseOther _ _).bind (ensures_true _) fun drawn _ => ?_
  cases drawn with
  | none => exact CheckedDraw.yields_pure _
  | some symbol =>
      simp only [CheckedDraw.insertIdx_of_le (Nat.min_le_right i s.symbols.length), pure_bind]
      exact CheckedDraw.yields_pure _

omit [Source σ] in
theorem yields_checkedEraseIdx (i : ℕ) (s : Sequence) :
    (s.checkedEraseIdx i : CheckedDraw σ Sequence).Yields (pure (s.eraseIdx i)) := by
  unfold checkedEraseIdx eraseIdx
  split_ifs with hi
  · rw [CheckedDraw.eraseIdx_of_lt hi, pure_bind]
    exact CheckedDraw.yields_pure _
  · rw [List.eraseIdx_of_length_le (Nat.le_of_not_lt hi)]
    exact CheckedDraw.yields_pure s

theorem yields_checkedReplaceIdx (i : ℕ) (alphabet : Alphabet) (s : Sequence) :
    (s.checkedReplaceIdx i alphabet : CheckedDraw σ Sequence).Yields (s.replaceIdx i alphabet) := by
  unfold checkedReplaceIdx replaceIdx
  cases hcurrent : s.symbols[i]? with
  | none => exact CheckedDraw.yields_pure _
  | some current =>
      refine (CheckedDraw.yields_chooseOther _ _).bind (ensures_true _) fun drawn _ => ?_
      cases drawn with
      | none => exact CheckedDraw.yields_pure _
      | some symbol =>
          have hi : i < s.symbols.length := (List.getElem?_eq_some_iff.mp hcurrent).1
          simp only [CheckedDraw.set_of_lt hi, pure_bind]
          exact CheckedDraw.yields_pure _

omit [Source σ] in
theorem yields_checkedDuplicateIdx (i : ℕ) (s : Sequence) :
    (s.checkedDuplicateIdx i : CheckedDraw σ Sequence).Yields (pure (s.duplicateIdx i)) := by
  unfold checkedDuplicateIdx duplicateIdx
  cases hcurrent : s.symbols[i]? with
  | none => exact CheckedDraw.yields_pure _
  | some symbol =>
      have hi : i < s.symbols.length := (List.getElem?_eq_some_iff.mp hcurrent).1
      simp only [CheckedDraw.insertIdx_of_le (Nat.le_of_lt hi), pure_bind]
      exact CheckedDraw.yields_pure _

theorem yields_checkedMutate (op : Operator) (alphabet : Alphabet) (s : Sequence) :
    (s.checkedMutate op alphabet : CheckedDraw σ Sequence).Yields (s.mutate op alphabet) := by
  unfold checkedMutate mutate
  dsimp only
  split_ifs with hempty
  · cases op with
    | insert => exact yields_checkedInsertIdx 0 alphabet s
    | delete => exact CheckedDraw.yields_pure s
    | replace => exact CheckedDraw.yields_pure s
    | duplicate => exact yields_checkedInsertIdx 0 alphabet s
  · have hpos : 0 < s.symbols.length := Nat.pos_of_ne_zero hempty
    cases op with
    | insert =>
        exact (CheckedDraw.yields_between (Nat.zero_le _)).bind (ensures_true _) fun i _ =>
          yields_checkedInsertIdx i alphabet s
    | delete =>
        exact (CheckedDraw.yields_below hpos).bind (ensures_true _) fun i _ =>
          yields_checkedEraseIdx i s
    | replace =>
        exact (CheckedDraw.yields_below hpos).bind (ensures_true _) fun i _ =>
          yields_checkedReplaceIdx i alphabet s
    | duplicate =>
        exact (CheckedDraw.yields_below hpos).bind (ensures_true _) fun i _ =>
          yields_checkedDuplicateIdx i s

end Sequence

/-! ## Syntax trees -/

namespace NodeSupply

def checkedDrawOfKind (v : NodeSupply) (kind : NodeKind) (current : Option Node) :
    CheckedDraw σ (Option Node) :=
  match kind with
  | .char => do
    let present := match current with | some (.char c) => some c | _ => none
    return (← CheckedDraw.chooseOther v.chars present).map Node.char
  | .literal => do
    let present := match current with | some (.literal text) => some text | _ => none
    return (← CheckedDraw.chooseOther v.literals present).map Node.literal
  | .quantifier => do
    let present := match current with | some (.quantifier q) => some q | _ => none
    return (← CheckedDraw.chooseOther v.quantifiers present).map Node.quantifier
  | .set => return some (.set [])

def checkedDraw (v : NodeSupply) : CheckedDraw σ (Option Node) := do
  match ← CheckedDraw.choose v.kinds with
  | none => return none
  | some kind => v.checkedDrawOfKind kind none

theorem yields_checkedDrawOfKind (v : NodeSupply) (kind : NodeKind) (current : Option Node) :
    (v.checkedDrawOfKind kind current : CheckedDraw σ (Option Node)).Yields
      (v.drawOfKind kind current) := by
  cases kind with
  | char =>
      exact (CheckedDraw.yields_chooseOther _ _).bind (ensures_true _) fun _ _ =>
        CheckedDraw.yields_pure _
  | literal =>
      exact (CheckedDraw.yields_chooseOther _ _).bind (ensures_true _) fun _ _ =>
        CheckedDraw.yields_pure _
  | quantifier =>
      exact (CheckedDraw.yields_chooseOther _ _).bind (ensures_true _) fun _ _ =>
        CheckedDraw.yields_pure _
  | set => exact CheckedDraw.yields_pure _

theorem yields_checkedDraw (v : NodeSupply) :
    (v.checkedDraw : CheckedDraw σ (Option Node)).Yields v.draw := by
  refine (CheckedDraw.yields_choose _).bind (ensures_true _) fun drawn _ => ?_
  cases drawn with
  | none => exact CheckedDraw.yields_pure _
  | some kind => exact yields_checkedDrawOfKind v kind none

end NodeSupply

namespace Node

def checkedInsertDrawn (v : NodeSupply) (nodes : List Node) : CheckedDraw σ (List Node) := do
  let i ← CheckedDraw.between 0 nodes.length
  match ← v.checkedDraw with
  | none => return nodes
  | some node => CheckedDraw.insertIdx i node nodes

def checkedEditList (op : Operator) (v : NodeSupply) (nodes : List Node) :
    CheckedDraw σ (List Node) :=
  match op with
  | .insert => checkedInsertDrawn v nodes
  | .delete =>
    if nodes.isEmpty then return nodes
    else do
      let i ← CheckedDraw.below nodes.length
      CheckedDraw.eraseIdx i nodes
  | .replace =>
    if nodes.isEmpty then return nodes
    else do
      let i ← CheckedDraw.below nodes.length
      let current ← CheckedDraw.get nodes i
      match ← v.checkedDrawOfKind current.kind (some current) with
      | none => return nodes
      | some node => CheckedDraw.set i node nodes
  | .duplicate =>
    if nodes.isEmpty then checkedInsertDrawn v nodes
    else do
      let i ← CheckedDraw.below nodes.length
      let node ← CheckedDraw.get nodes i
      CheckedDraw.insertIdx i node nodes

theorem yields_checkedInsertDrawn (v : NodeSupply) (nodes : List Node) :
    (checkedInsertDrawn v nodes : CheckedDraw σ (List Node)).Yields (insertDrawn v nodes) := by
  refine (CheckedDraw.yields_between (Nat.zero_le _)).bind (ensures_between (Nat.zero_le _))
    fun i hi => ?_
  refine (NodeSupply.yields_checkedDraw v).bind (ensures_true _) fun drawn _ => ?_
  cases drawn with
  | none => exact CheckedDraw.yields_pure _
  | some node =>
      dsimp only
      rw [CheckedDraw.insertIdx_of_le hi.2]
      exact CheckedDraw.yields_pure _

theorem yields_checkedEditList (op : Operator) (v : NodeSupply) (nodes : List Node) :
    (checkedEditList op v nodes : CheckedDraw σ (List Node)).Yields (editList op v nodes) := by
  unfold checkedEditList editList
  cases nodes with
  | nil =>
      cases op with
      | insert => exact yields_checkedInsertDrawn v []
      | delete => exact CheckedDraw.yields_pure _
      | replace => exact CheckedDraw.yields_pure _
      | duplicate => exact yields_checkedInsertDrawn v []
  | cons node rest =>
      have hpos : 0 < (node :: rest).length := Nat.succ_pos _
      cases op with
      | insert => exact yields_checkedInsertDrawn v (node :: rest)
      | delete =>
          refine (CheckedDraw.yields_below hpos).bind (ensures_below hpos) fun i hi => ?_
          rw [CheckedDraw.eraseIdx_of_lt hi]
          exact CheckedDraw.yields_pure _
      | replace =>
          refine (CheckedDraw.yields_below hpos).bind (ensures_below hpos) fun i hi => ?_
          have hcurrent := List.getElem?_eq_getElem hi
          rw [CheckedDraw.get_of_getElem? hcurrent, hcurrent, pure_bind]
          refine (NodeSupply.yields_checkedDrawOfKind v _ _).bind (ensures_true _) fun drawn _ => ?_
          cases drawn with
          | none => exact CheckedDraw.yields_pure _
          | some node =>
              dsimp only
              rw [CheckedDraw.set_of_lt hi]
              exact CheckedDraw.yields_pure _
      | duplicate =>
          refine (CheckedDraw.yields_below hpos).bind (ensures_below hpos) fun i hi => ?_
          have hcurrent := List.getElem?_eq_getElem hi
          rw [CheckedDraw.get_of_getElem? hcurrent, hcurrent, pure_bind,
            CheckedDraw.insertIdx_of_le (Nat.le_of_lt hi)]
          exact CheckedDraw.yields_pure _

end Node

namespace SyntaxTree

def checkedMutate (op : Operator) (v : NodeSupply) (t : SyntaxTree) :
    CheckedDraw σ SyntaxTree := do
  match ← CheckedDraw.choose t.listPaths with
  | none => return t
  | some path =>
    match Node.listAt? path t.children with
    | none => return t
    | some nodes =>
      let edited ← Node.checkedEditList op v nodes
      return ⟨Node.setListAt edited path t.children⟩

theorem yields_checkedMutate (op : Operator) (v : NodeSupply) (t : SyntaxTree) :
    (t.checkedMutate op v : CheckedDraw σ SyntaxTree).Yields (t.mutate op v) := by
  refine (CheckedDraw.yields_choose _).bind (ensures_true _) fun drawn _ => ?_
  cases drawn with
  | none => exact CheckedDraw.yields_pure _
  | some path =>
      dsimp only
      cases Node.listAt? path t.children with
      | none => exact CheckedDraw.yields_pure _
      | some nodes =>
          exact (Node.yields_checkedEditList op v nodes).bind (ensures_true _) fun edited _ =>
            CheckedDraw.yields_pure _

end SyntaxTree

/-! ## Representations -/

/-- A representation whose edits are also given with every bound checked, and never fail. -/
class CheckedGenotype (G : Type) {V : outParam Type} [Genotype G V] where
  checkedMutate : {σ : Type} → [Source σ] → Operator → V → G → CheckedDraw σ G
  yields_checkedMutate : ∀ {σ : Type} [Source σ] (op : Operator) (vocabulary : V) (g : G),
    (checkedMutate op vocabulary g : CheckedDraw σ G).Yields (Genotype.mutate op vocabulary g)

instance : CheckedGenotype Sequence where
  checkedMutate op alphabet s := s.checkedMutate op alphabet
  yields_checkedMutate op alphabet s := s.yields_checkedMutate op alphabet

instance : CheckedGenotype SyntaxTree where
  checkedMutate op v t := t.checkedMutate op v
  yields_checkedMutate op v t := t.yields_checkedMutate op v

namespace CheckedGenotype

variable {G V : Type} [Genotype G V] [CheckedGenotype G]

def checkedMutateTimes (wheel : OperatorWheel) (vocabulary : V) :
    (count : ℕ) → G → CheckedDraw σ G
  | 0, g => return g
  | count + 1, g => do
    let op ← wheel.checkedSpin
    let next ← checkedMutate op vocabulary g
    checkedMutateTimes wheel vocabulary count next

theorem yields_checkedMutateTimes (wheel : OperatorWheel) (vocabulary : V) (count : ℕ) (g : G) :
    (checkedMutateTimes wheel vocabulary count g : CheckedDraw σ G).Yields
      (Genotype.mutateTimes wheel vocabulary count g) := by
  induction count generalizing g with
  | zero => exact CheckedDraw.yields_pure g
  | succ count ih =>
      refine wheel.yields_checkedSpin.bind (ensures_true _) fun op _ => ?_
      exact (yields_checkedMutate op vocabulary g).bind (ensures_true _) fun next _ => ih next

end CheckedGenotype

end RegexInference
