import Mathlib.Data.List.InsertIdx
import Mathlib.Data.List.Nodup
import RegexInference.Genotype.Sequence
import RegexInference.Proofs.Alphabet
import RegexInference.Proofs.Random.Draws

/-!
# Single edits

A mutation of a sequence is one edit at one place, whatever is drawn.  A symbol that comes in can be
taken out again, one that is exchanged leaves the others where they are, and the new symbol is
another one than the old as soon as the alphabet has two.
-/

namespace RegexInference

open RegexInference.Random

/-! ## Lists that differ at one place -/

/-- The edited list has `x` at a place, and without it is the old one. -/
structure Gains {α : Type} (i : ℕ) (x : α) (old edited : List α) : Prop where
  here : edited[i]? = some x
  elsewhere : edited.eraseIdx i = old

/-- The edited list lacks the member that the old one has at a place. -/
structure Loses {α : Type} (i : ℕ) (old edited : List α) : Prop where
  lt : i < old.length
  elsewhere : edited = old.eraseIdx i

/-- The edited list has `x` at a place where the old one has another member or the same, and agrees
with it everywhere else. -/
structure Exchanges {α : Type} (i : ℕ) (x : α) (old edited : List α) : Prop where
  lt : i < old.length
  here : edited[i]? = some x
  elsewhere : ∀ j, j ≠ i → edited[j]? = old[j]?

section

variable {α : Type} {i : ℕ} {x : α} {old edited : List α}

theorem gains_insertIdx (hi : i ≤ old.length) : Gains i x old (old.insertIdx i x) where
  here := by rw [List.getElem?_insertIdx_self, if_pos hi]
  elsewhere := List.eraseIdx_insertIdx_self x

theorem exchanges_set (hi : i < old.length) : Exchanges i x old (old.set i x) where
  lt := hi
  here := List.getElem?_set_self hi
  elsewhere _ hj := List.getElem?_set_ne hj.symm

theorem Exchanges.ne (h : Exchanges i x old edited) (hother : old[i]? ≠ some x) :
    edited ≠ old := by
  rintro rfl
  exact hother h.here

/-- Some member of a list of several is not the current one. -/
theorem exists_mem_ne (hnodup : old.Nodup) (hseveral : 2 ≤ old.length) (current : Option α) :
    ∃ y ∈ old, current ≠ some y := by
  by_contra hnone
  have hall : ∀ y ∈ old, current = some y := fun y hy => by
    by_contra hne
    exact hnone ⟨y, hy, hne⟩
  have hfirst := hall old[0] (List.getElem_mem _)
  have hsecond := hall old[1] (List.getElem_mem _)
  have hsame : old[0] = old[1] := Option.some.inj (hfirst.symm.trans hsecond)
  exact absurd (hnodup.getElem_inj_iff.mp hsame) Nat.zero_ne_one

end

namespace Sequence

/-! ## What the operators may do -/

variable (alphabet : Alphabet) (s next : Sequence)

/-- A symbol of the alphabet comes in, if there is one.  It can be taken out again, and it differs
from the one that stood at its place if the alphabet has several. -/
inductive Inserts : Prop where
  | nothing (hempty : alphabet.symbols = []) (hsame : next = s)
  | symbol (i : ℕ) (x : Symbol) (hplace : i ≤ s.symbols.length)
      (hgains : Gains i x s.symbols next.symbols) (hmem : x ∈ alphabet.symbols)
      (hother : 2 ≤ alphabet.symbols.length → s.symbols[i]? ≠ some x)
      (hundone : next.eraseIdx i = s)

/-- A symbol comes in right in front of an equal one, and can be taken out again. -/
structure Doubles (i : ℕ) (x : Symbol) : Prop where
  original : s.symbols[i]? = some x
  gains : Gains i x s.symbols next.symbols
  undone : next.eraseIdx i = s

/-- A symbol of the alphabet takes the place of another one. -/
structure Replaces : Prop where
  length : next.symbols.length = s.symbols.length
  place : next = s ∨ ∃ i, ∃ x ∈ alphabet.symbols, Exchanges i x s.symbols next.symbols
  other : s.symbols ≠ [] → 2 ≤ alphabet.symbols.length → next ≠ s

/-- What each operator may make of a sequence. -/
inductive EditsOnce : Operator → Prop where
  | insert (h : s.Inserts alphabet next) : EditsOnce .insert
  | deleteOfEmpty (hempty : s.symbols = []) (hsame : next = s) : EditsOnce .delete
  | delete (i : ℕ) (h : Loses i s.symbols next.symbols) : EditsOnce .delete
  | replace (h : s.Replaces alphabet next) : EditsOnce .replace
  | duplicateOfEmpty (hempty : s.symbols = []) (h : s.Inserts alphabet next) : EditsOnce .duplicate
  | duplicate (i : ℕ) (x : Symbol) (h : s.Doubles next i x) : EditsOnce .duplicate

/-! ## Edits at a place -/

variable {σ : Type} [Source σ] {alphabet s next}

theorem eraseIdx_of_gains {i : ℕ} {x : Symbol} (h : Gains i x s.symbols next.symbols) :
    next.eraseIdx i = s :=
  congrArg Sequence.mk h.elsewhere

/-- A drawn symbol differs from the current one if there are several, since no two are the same. -/
theorem ensures_drawn (hnodup : alphabet.symbols.Nodup) (current : Option Symbol) :
    Ensures (chooseOther alphabet.symbols current : Draw σ (Option Symbol)) fun drawn =>
      ((∀ x ∈ drawn, x ∈ alphabet.symbols) ∧ (drawn = none → alphabet.symbols = [])) ∧
        (2 ≤ alphabet.symbols.length → drawn ≠ current) := by
  refine (ensures_chooseOther _ _).and fun source hseveral => ?_
  obtain ⟨y, hy, hother⟩ := exists_mem_ne hnodup hseveral current
  exact ensures_chooseOther_ne hy hother source

theorem ensures_insertIdx_inserts (hnodup : alphabet.symbols.Nodup) {i : ℕ}
    (hi : i ≤ s.symbols.length) :
    Ensures (s.insertIdx i alphabet : Draw σ Sequence) (s.Inserts alphabet) := by
  unfold insertIdx
  rw [Nat.min_eq_left hi]
  refine (ensures_drawn hnodup _).bind fun drawn hdrawn => ?_
  obtain ⟨⟨hmem, hnone⟩, hother⟩ := hdrawn
  cases drawn with
  | none => exact ensures_pure (.nothing (hnone rfl) rfl)
  | some x =>
      have hgains : Gains i x s.symbols (s.symbols.insertIdx i x) := gains_insertIdx hi
      exact ensures_pure (.symbol i x hi hgains (hmem x rfl)
        (fun hseveral => (hother hseveral).symm) (eraseIdx_of_gains hgains))

theorem ensures_replaceIdx_replaces (hnodup : alphabet.symbols.Nodup) {i : ℕ}
    (hi : i < s.symbols.length) :
    Ensures (s.replaceIdx i alphabet : Draw σ Sequence) (s.Replaces alphabet) := by
  unfold replaceIdx
  rw [List.getElem?_eq_getElem hi]
  refine (ensures_drawn hnodup _).bind fun drawn hdrawn => ?_
  obtain ⟨⟨hmem, hnone⟩, hother⟩ := hdrawn
  cases drawn with
  | none =>
      refine ensures_pure ⟨rfl, Or.inl rfl, fun _ hseveral => ?_⟩
      rw [hnone rfl] at hseveral
      exact absurd hseveral (by decide)
  | some x =>
      have hexchanges : Exchanges i x s.symbols (s.symbols.set i x) := exchanges_set hi
      refine ensures_pure ⟨List.length_set, Or.inr ⟨i, x, hmem x rfl, hexchanges⟩, ?_⟩
      intro _ hseveral hsame
      refine hexchanges.ne ?_ (congrArg symbols hsame)
      rw [List.getElem?_eq_getElem hi]
      exact (hother hseveral).symm

theorem duplicateIdx_doubles {i : ℕ} (hi : i < s.symbols.length) :
    s.Doubles (s.duplicateIdx i) i s.symbols[i] := by
  have hsymbol : s.symbols[i]? = some s.symbols[i] := List.getElem?_eq_getElem hi
  have hgains : Gains i s.symbols[i] s.symbols (s.duplicateIdx i).symbols := by
    unfold duplicateIdx
    rw [hsymbol]
    exact gains_insertIdx (Nat.le_of_lt hi)
  exact ⟨hsymbol, hgains, eraseIdx_of_gains hgains⟩

theorem replaces_of_empty (hempty : s.symbols = []) : s.Replaces alphabet s :=
  ⟨rfl, Or.inl rfl, fun hsome => absurd hempty hsome⟩

/-- Whatever is drawn, a mutation of a sequence is one edit as its operator says. -/
theorem mutate_editsOnce (tokens : List String) (op : Operator) (s : Sequence) :
    Ensures (s.mutate op (Alphabet.ofTokens tokens) : Draw σ Sequence)
      fun next => s.EditsOnce (Alphabet.ofTokens tokens) next op := by
  have hnodup := (Alphabet.lists_ofTokens tokens).nodup
  unfold mutate
  dsimp only
  split_ifs with hlength
  · have hempty : s.symbols = [] := List.length_eq_zero_iff.mp hlength
    have hinserts : Ensures (s.insertIdx 0 (Alphabet.ofTokens tokens) : Draw σ Sequence)
        (s.Inserts (Alphabet.ofTokens tokens)) :=
      ensures_insertIdx_inserts hnodup (Nat.zero_le _)
    cases op with
    | insert => exact hinserts.mono fun _ h => .insert h
    | delete => exact ensures_pure (.deleteOfEmpty hempty rfl)
    | replace => exact ensures_pure (.replace (replaces_of_empty hempty))
    | duplicate => exact hinserts.mono fun _ h => .duplicateOfEmpty hempty h
  · have hpos : 0 < s.symbols.length := Nat.pos_of_ne_zero hlength
    cases op with
    | insert =>
        refine (ensures_between (Nat.zero_le _)).bind fun i hi => ?_
        exact (ensures_insertIdx_inserts hnodup hi.2).mono fun _ h => .insert h
    | delete =>
        refine (ensures_below hpos).bind fun i hi => ensures_pure ?_
        exact .delete i ⟨hi, rfl⟩
    | replace =>
        refine (ensures_below hpos).bind fun i hi => ?_
        exact (ensures_replaceIdx_replaces hnodup hi).mono fun _ h => .replace h
    | duplicate =>
        refine (ensures_below hpos).bind fun i hi => ensures_pure ?_
        exact .duplicate i _ (duplicateIdx_doubles hi)

end Sequence

end RegexInference
