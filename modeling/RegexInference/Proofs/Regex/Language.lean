import Mathlib.Data.Nat.Notation
import RegexInference.Regex.Join

/-!
# What an expression matches

An expression relates the two ends of each piece of a text that it matches.  Preferences play no
part in this, so the order of alternatives and the greed of repetitions are gone, and a round that
takes no character is a round like any other.
-/

namespace RegexInference.Regex

/-- `n` rounds of a relation. -/
def Iterate (R : ℕ → ℕ → Prop) : ℕ → ℕ → ℕ → Prop
  | 0, i, j => i = j
  | n + 1, i, j => ∃ k, R i k ∧ Iterate R n k j

/-- The expression matches the text between two places. -/
def Matches (text : Array Char) : Regex → ℕ → ℕ → Prop
  | empty, i, j => i = j
  | chars set _, i, j => (∃ c, text[i]? = some c ∧ set.has c = true) ∧ j = i + 1
  | look l, i, j => l.holds text i = true ∧ i = j
  | seq r s, i, j => ∃ k, r.Matches text i k ∧ s.Matches text k j
  | alt r s, i, j => r.Matches text i j ∨ s.Matches text i j
  | rounds r min max _, i, j =>
    ∃ n, min ≤ n ∧ (∀ m ∈ max, n ≤ Max.max min m) ∧ Iterate (r.Matches text) n i j
  | group r, i, j => r.Matches text i j

variable {text : Array Char}

/-! ## Rounds -/

section

variable {R : ℕ → ℕ → Prop}

theorem iterate_one {i j : ℕ} : Iterate R 1 i j ↔ R i j := by
  constructor
  · rintro ⟨k, hk, rfl⟩
    exact hk
  · intro h
    exact ⟨j, h, rfl⟩

theorem iterate_add {m n i j : ℕ} :
    Iterate R (m + n) i j ↔ ∃ k, Iterate R m i k ∧ Iterate R n k j := by
  induction m generalizing i with
  | zero => simp [Iterate]
  | succ m ih =>
      rw [Nat.succ_add]
      constructor
      · rintro ⟨k, hk, hrest⟩
        obtain ⟨l, hl, hn⟩ := ih.mp hrest
        exact ⟨l, ⟨k, hk, hl⟩, hn⟩
      · rintro ⟨l, ⟨k, hk, hl⟩, hn⟩
        exact ⟨k, hk, ih.mpr ⟨l, hl, hn⟩⟩

/-- Rounds that are known to take place, and the others behind them. -/
theorem iterate_behind {m i j : ℕ} {P : ℕ → Prop} :
    (∃ k, Iterate R m i k ∧ ∃ n, P n ∧ Iterate R n k j) ↔ ∃ n, P n ∧ Iterate R (m + n) i j := by
  simp only [iterate_add]
  constructor
  · rintro ⟨k, hk, n, hn, hkj⟩
    exact ⟨n, hn, k, hk, hkj⟩
  · rintro ⟨n, hn, k, hk, hkj⟩
    exact ⟨k, hk, n, hn, hkj⟩

end

theorem matches_rounds_none {r : Regex} {min : ℕ} {greedy : Bool} {i j : ℕ} :
    (rounds r min none greedy).Matches text i j ↔
      ∃ n, min ≤ n ∧ Iterate (r.Matches text) n i j := by
  simp [Matches]

theorem matches_rounds_some {r : Regex} {min m : ℕ} {greedy : Bool} {i j : ℕ} :
    (rounds r min (some m) greedy).Matches text i j ↔
      ∃ n, min ≤ n ∧ n ≤ max min m ∧ Iterate (r.Matches text) n i j := by
  simp [Matches]

/-! ## Concatenation -/

theorem matches_chain_cons (r : Regex) (rs : List Regex) {i j : ℕ} :
    (chain (r :: rs)).Matches text i j ↔
      ∃ k, r.Matches text i k ∧ (chain rs).Matches text k j := by
  cases rs with
  | nil =>
      constructor
      · intro h
        exact ⟨j, h, rfl⟩
      · rintro ⟨k, hk, rfl⟩
        exact hk
  | cons s rs => rfl

theorem matches_chain_append (rs ss : List Regex) {i j : ℕ} :
    (chain (rs ++ ss)).Matches text i j ↔
      ∃ k, (chain rs).Matches text i k ∧ (chain ss).Matches text k j := by
  induction rs generalizing i with
  | nil =>
      constructor
      · intro h
        exact ⟨i, rfl, h⟩
      · rintro ⟨k, rfl, hk⟩
        exact hk
  | cons r rs ih =>
      rw [List.cons_append, matches_chain_cons]
      simp only [ih, matches_chain_cons]
      constructor
      · rintro ⟨k, hk, l, hl, hss⟩
        exact ⟨l, ⟨k, hk, hl⟩, hss⟩
      · rintro ⟨l, ⟨k, hk, hl⟩, hss⟩
        exact ⟨k, hk, l, hl, hss⟩

/-- Taking a concatenation apart keeps its language. -/
theorem matches_chain_factors (r : Regex) {i j : ℕ} :
    (chain r.factors).Matches text i j ↔ r.Matches text i j := by
  induction r generalizing i j with
  | empty => rfl
  | seq r s ihr ihs =>
      rw [factors, matches_chain_append]
      simp only [ihr, ihs]
      rfl
  | chars | look | alt | rounds | group => rfl

theorem matches_seqAll_cons (r : Regex) (rs : List Regex) {i j : ℕ} :
    (seqAll (r :: rs)).Matches text i j ↔
      ∃ k, r.Matches text i k ∧ (seqAll rs).Matches text k j := by
  unfold seqAll
  rw [List.flatMap_cons, matches_chain_append]
  simp only [matches_chain_factors]

@[simp] theorem matches_seqAll_nil {i j : ℕ} : (seqAll []).Matches text i j ↔ i = j := Iff.rfl

/-! ## Whole texts -/

/-- The expression between the start and the end of the text. -/
def anchored (r : Regex) : Regex := seqAll [look .textStart, r, look .textEnd]

/-- Between its anchors an expression matches the whole text or nothing. -/
theorem matches_anchored (r : Regex) {i j : ℕ} :
    r.anchored.Matches text i j ↔ i = 0 ∧ j = text.size ∧ r.Matches text 0 text.size := by
  unfold anchored
  simp only [matches_seqAll_cons, matches_seqAll_nil, Matches, Look.holds, beq_iff_eq]
  constructor
  · rintro ⟨k, ⟨rfl, rfl⟩, l, hl, m, ⟨rfl, rfl⟩, rfl⟩
    exact ⟨rfl, rfl, hl⟩
  · rintro ⟨rfl, rfl, h⟩
    exact ⟨0, ⟨rfl, rfl⟩, text.size, h, text.size, ⟨rfl, rfl⟩, rfl⟩

end RegexInference.Regex
