import RegexInference.Proofs.Random.Draws

/-!
# Draws with every bound checked

A number is drawn from a range, and a member is read from, put into or taken out of a list at a
place.  Here each of these operations looks at its range or its place first and fails with a fault
when it is not there.  Where the bounds are met, a checked draw yields what the unchecked one does,
from every source.
-/

namespace RegexInference.Random

/-- Why a checked operation fails. -/
inductive Fault where
  /-- There is no number from `low` up to, but not including, `limit`. -/
  | emptyRange (low limit : ℕ)
  /-- A list of this length has no such place. -/
  | outOfBounds (i length : ℕ)
  deriving DecidableEq, Repr

/-- A draw that can fail. -/
abbrev CheckedDraw (σ α : Type) := StateT σ (Except Fault) α

variable {σ α β : Type}

namespace CheckedDraw

/-- A draw that cannot fail by itself. -/
def ofDraw (d : Draw σ α) : CheckedDraw σ α := fun s => .ok (d.run s)

/-- The checked draw meets no fault and yields what the unchecked one does. -/
def Yields (c : CheckedDraw σ α) (d : Draw σ α) : Prop := ∀ s, c.run s = .ok (d.run s)

theorem yields_ofDraw (d : Draw σ α) : Yields (ofDraw d) d := fun _ => rfl

theorem yields_pure (a : α) : Yields (pure a : CheckedDraw σ α) (pure a) := fun _ => rfl

/-- A checked draw behind another one may rely on what the first one ensures. -/
theorem Yields.bind {c : CheckedDraw σ α} {d : Draw σ α} {P : α → Prop}
    {f : α → CheckedDraw σ β} {g : α → Draw σ β} (hc : Yields c d) (hd : Ensures d P)
    (hf : ∀ a, P a → Yields (f a) (g a)) : Yields (c >>= f) (d >>= g) := by
  intro s
  calc (c >>= f).run s = c.run s >>= fun drawn => (f drawn.1).run drawn.2 := rfl
    _ = (f (d.run s).1).run (d.run s).2 := by rw [hc s]; rfl
    _ = .ok ((g (d.run s).1).run (d.run s).2) := hf _ (hd s) _

/-! ## Ranges -/

section

variable [Source σ]

def below (n : ℕ) : CheckedDraw σ ℕ :=
  if 0 < n then ofDraw (Random.below n) else throw (.emptyRange 0 n)

def between (low high : ℕ) : CheckedDraw σ ℕ :=
  if low ≤ high then ofDraw (Random.between low high) else throw (.emptyRange low (high + 1))

theorem yields_below {n : ℕ} (hn : 0 < n) : Yields (below n : CheckedDraw σ ℕ) (Random.below n) := by
  rw [below, if_pos hn]
  exact yields_ofDraw _

theorem yields_between {low high : ℕ} (h : low ≤ high) :
    Yields (between low high : CheckedDraw σ ℕ) (Random.between low high) := by
  rw [between, if_pos h]
  exact yields_ofDraw _

end

/-! ## Places -/

/-- Reads the member at a place. -/
def get (xs : List α) (i : ℕ) : CheckedDraw σ α :=
  match xs[i]? with
  | some x => return x
  | none => throw (.outOfBounds i xs.length)

/-- Puts a member before the one at a place, or at the end. -/
def insertIdx (i : ℕ) (x : α) (xs : List α) : CheckedDraw σ (List α) :=
  if i ≤ xs.length then return xs.insertIdx i x else throw (.outOfBounds i xs.length)

def eraseIdx (i : ℕ) (xs : List α) : CheckedDraw σ (List α) :=
  if i < xs.length then return xs.eraseIdx i else throw (.outOfBounds i xs.length)

def set (i : ℕ) (x : α) (xs : List α) : CheckedDraw σ (List α) :=
  if i < xs.length then return xs.set i x else throw (.outOfBounds i xs.length)

section

variable {i : ℕ} {x : α} {xs : List α}

theorem get_of_getElem? (h : xs[i]? = some x) : (get xs i : CheckedDraw σ α) = pure x := by
  rw [get, h]

theorem insertIdx_of_le (h : i ≤ xs.length) :
    (insertIdx i x xs : CheckedDraw σ (List α)) = pure (xs.insertIdx i x) := by
  rw [insertIdx, if_pos h]

theorem eraseIdx_of_lt (h : i < xs.length) :
    (eraseIdx i xs : CheckedDraw σ (List α)) = pure (xs.eraseIdx i) := by
  rw [eraseIdx, if_pos h]

theorem set_of_lt (h : i < xs.length) :
    (set i x xs : CheckedDraw σ (List α)) = pure (xs.set i x) := by
  rw [set, if_pos h]

end

/-! ## Members -/

variable [Source σ]

def choose (xs : List α) : CheckedDraw σ (Option α) :=
  match xs with
  | [] => return none
  | _ => do
    let i ← if 0 < xs.length then ofDraw (Random.indexBelow xs.length)
      else throw (.emptyRange 0 xs.length)
    return some (← get xs i)

def chooseOther [DecidableEq α] (xs : List α) (current : Option α) : CheckedDraw σ (Option α) :=
  match current with
  | none => choose xs
  | some x =>
    let others := xs.filter (· ≠ x)
    if xs.length > 1 ∧ others ≠ [] then choose others else choose xs

theorem yields_choose (xs : List α) :
    Yields (choose xs : CheckedDraw σ (Option α)) (Random.choose xs) := by
  cases xs with
  | nil => exact yields_pure none
  | cons x rest =>
      have hpos : 0 < (x :: rest).length := Nat.succ_pos _
      simp only [choose, if_pos hpos]
      refine (yields_ofDraw _).bind (ensures_indexBelow hpos) fun i hi => ?_
      have hmember := List.getElem?_eq_getElem hi
      rw [get_of_getElem? hmember, hmember]
      exact yields_pure _

theorem yields_chooseOther [DecidableEq α] (xs : List α) (current : Option α) :
    Yields (chooseOther xs current : CheckedDraw σ (Option α)) (Random.chooseOther xs current) := by
  unfold chooseOther Random.chooseOther
  cases current with
  | none => exact yields_choose xs
  | some x =>
      dsimp only
      split_ifs with hothers
      · exact yields_choose _
      · exact yields_choose xs

end CheckedDraw

end RegexInference.Random
