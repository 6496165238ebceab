import Mathlib.Algebra.Ring.Nat
import Mathlib.Tactic.SplitIfs
import RegexInference.Random.Source

/-!
# What draws yield

Whatever words a source yields, a number drawn from a range that is not empty lies in the range, and
a member drawn from a list that is not empty is one of its members.  A member drawn in place of a
current one differs from it if the list has another.
-/

namespace RegexInference.Random

variable {σ α β : Type}

/-- The value drawn has a property, whatever the source. -/
def Ensures (d : Draw σ α) (P : α → Prop) : Prop := ∀ s, P (d.run s).1

section

variable {d : Draw σ α} {P : α → Prop} {Q : β → Prop}

theorem ensures_pure {a : α} (ha : P a) : Ensures (pure a : Draw σ α) P := fun _ => ha

theorem ensures_true (d : Draw σ α) : Ensures d fun _ => True := fun _ => trivial

theorem Ensures.bind {f : α → Draw σ β} (hd : Ensures d P) (hf : ∀ a, P a → Ensures (f a) Q) :
    Ensures (d >>= f) Q := by
  intro s
  exact hf _ (hd s) _

theorem Ensures.map {f : α → β} (hd : Ensures d P) (hf : ∀ a, P a → Q (f a)) :
    Ensures (f <$> d) Q := by
  intro s
  exact hf _ (hd s)

theorem Ensures.and {Q : α → Prop} (hP : Ensures d P) (hQ : Ensures d Q) :
    Ensures d fun a => P a ∧ Q a :=
  fun s => ⟨hP s, hQ s⟩

theorem Ensures.mono {Q : α → Prop} (hd : Ensures d P) (h : ∀ a, P a → Q a) : Ensures d Q :=
  fun s => h _ (hd s)

end

/-! ## Numbers -/

/-- Scaling takes a word of `bits` bits below any bound. -/
theorem mul_shiftRight_lt {v bits n : ℕ} (hv : v < 2 ^ bits) (hn : 0 < n) :
    (v * n) >>> bits < n := by
  rw [Nat.shiftRight_eq_div_pow]
  exact Nat.div_lt_of_lt_mul (Nat.mul_lt_mul_of_pos_right hv hn)

theorem ensures_scaleBelow {word : Draw σ ℕ} {bits n : ℕ} (hword : Ensures word (· < 2 ^ bits))
    (hn : 0 < n) (tries : ℕ) : Ensures (scaleBelow word bits n tries) (· < n) := by
  induction tries with
  | zero => exact hword.bind fun v hv => ensures_pure (mul_shiftRight_lt hv hn)
  | succ tries ih =>
      refine hword.bind fun v hv => ?_
      split_ifs with haccepted
      · exact ensures_pure (mul_shiftRight_lt hv hn)
      · exact ih

variable [Source σ]

theorem ensures_below {n : ℕ} (hn : 0 < n) : Ensures (below n : Draw σ ℕ) (· < n) := by
  have hword : Ensures (UInt64.toNat <$> word64 : Draw σ ℕ) (· < 2 ^ 64) :=
    (ensures_true word64).map fun word _ => word.toNat_lt
  unfold below
  dsimp only
  split_ifs with hsize
  · exact ensures_scaleBelow hword hn _
  · exact hword.mono fun v hv => Nat.lt_of_lt_of_le hv (Nat.le_of_not_lt hsize)

theorem ensures_between {low high : ℕ} (h : low ≤ high) :
    Ensures (between low high : Draw σ ℕ) fun i => low ≤ i ∧ i ≤ high := by
  refine (ensures_below (Nat.succ_pos _)).bind fun offset hoffset => ensures_pure ?_
  omega

theorem ensures_indexBelow {n : ℕ} (hn : 0 < n) : Ensures (indexBelow n : Draw σ ℕ) (· < n) := by
  have hword : Ensures (UInt32.toNat <$> word32 : Draw σ ℕ) (· < 2 ^ 32) :=
    (ensures_true word32).map fun word _ => word.toNat_lt
  exact ensures_scaleBelow hword hn _

/-! ## Members -/

theorem ensures_choose (xs : List α) :
    Ensures (choose xs : Draw σ (Option α)) fun drawn =>
      (∀ x ∈ drawn, x ∈ xs) ∧ (drawn = none → xs = []) := by
  cases xs with
  | nil => exact ensures_pure (by simp)
  | cons x rest =>
      refine (ensures_indexBelow (Nat.succ_pos _)).bind fun i hi => ensures_pure ?_
      refine ⟨fun y hy => List.mem_of_getElem? hy, fun hnone => ?_⟩
      exact absurd hi (Nat.not_lt.mpr (List.getElem?_eq_none_iff.mp hnone))

theorem ensures_chooseOther [DecidableEq α] (xs : List α) (current : Option α) :
    Ensures (chooseOther xs current : Draw σ (Option α)) fun drawn =>
      (∀ x ∈ drawn, x ∈ xs) ∧ (drawn = none → xs = []) := by
  unfold chooseOther
  cases current with
  | none => exact ensures_choose xs
  | some x =>
      dsimp only
      split_ifs with hothers
      · refine (ensures_choose _).mono ?_
        rintro drawn ⟨hmem, hnone⟩
        exact ⟨fun y hy => List.mem_filter.mp (hmem y hy) |>.1, fun h => absurd (hnone h) hothers.2⟩
      · exact ensures_choose xs

/-- A draw yields another value than the current one if the list has one. -/
theorem ensures_chooseOther_ne [DecidableEq α] {xs : List α} {current : Option α} {y : α}
    (hy : y ∈ xs) (hother : current ≠ some y) :
    Ensures (chooseOther xs current : Draw σ (Option α)) (· ≠ current) := by
  unfold chooseOther
  cases current with
  | none =>
      refine (ensures_choose xs).mono fun drawn hdrawn hnone => ?_
      rw [hdrawn.2 hnone] at hy
      exact List.not_mem_nil hy
  | some x =>
      have hne : y ≠ x := fun hsame => hother (hsame ▸ rfl)
      have hothers : xs.filter (· ≠ x) ≠ [] :=
        List.ne_nil_of_mem (List.mem_filter.mpr ⟨hy, by simpa using hne⟩)
      dsimp only
      split_ifs with hseveral
      · refine (ensures_choose _).mono ?_
        rintro drawn ⟨hmem, -⟩ rfl
        have hpassed := (List.mem_filter.mp (hmem x rfl)).2
        simp at hpassed
      · -- The list has no other member, so there is nothing else to draw.
        have hle : xs.length ≤ 1 := Nat.le_of_not_lt fun hlt => hseveral ⟨hlt, hothers⟩
        have hone : xs.length = 1 := Nat.le_antisymm hle (List.length_pos_of_mem hy)
        obtain ⟨z, rfl⟩ := List.length_eq_one_iff.mp hone
        refine (ensures_choose _).mono ?_
        rintro drawn ⟨hmem, -⟩ rfl
        exact hne ((List.mem_singleton.mp hy).trans (List.mem_singleton.mp (hmem x rfl)).symm)

end RegexInference.Random
