import Mathlib.Computability.Language
import RegexInference.Proofs.Regex.Literal

/-!
# The words that an expression matches

An expression without assertions does not depend on what lies around the piece of text that it
matches.  Then it has a language: it matches where a word of the language stands, to its end.
-/

namespace RegexInference.Regex

open scoped Computability
open Unicode (CodeSet)

/-- A word of the language stands between two places of the text. -/
def Stands (L : Language Char) (text : Array Char) (i j : ℕ) : Prop :=
  ∃ word ∈ L, word <+: text.toList.drop i ∧ j = i + word.length

/-- The expression matches what the words of the language are, wherever they stand. -/
def Reads (L : Language Char) (r : Regex) : Prop :=
  ∀ (text : Array Char) (i j : ℕ), r.Matches text i j ↔ Stands L text i j

/-- The words that consist of one character out of a set. -/
def characters (set : CodeSet) : Language Char := {word | ∃ c, set.has c = true ∧ word = [c]}

variable {text : Array Char} {L M : Language Char} {r s : Regex} {i j : ℕ}

theorem characters_ofChar (c : Char) : characters (CodeSet.ofChar c) = {[c]} := by
  ext word
  change (∃ d, (CodeSet.ofChar c).has d = true ∧ word = [d]) ↔ word = [c]
  simp [CodeSet.has_ofChar]

/-! ## Words one after the other -/

theorem singleton_mul_singleton (v w : List Char) : ({v} * {w} : Language Char) = {v ++ w} :=
  Set.image2_singleton

theorem append_prefix_drop {v w ds : List Char} :
    v ++ w <+: ds.drop i ↔ v <+: ds.drop i ∧ w <+: ds.drop (i + v.length) := by
  constructor
  · rintro ⟨behind, hbehind⟩
    refine ⟨⟨w ++ behind, by rw [← List.append_assoc, hbehind]⟩, ⟨behind, ?_⟩⟩
    rw [← List.drop_drop, ← hbehind, List.append_assoc, List.drop_left]
  · rintro ⟨⟨behind, hv⟩, hw⟩
    rw [← List.drop_drop, ← hv, List.drop_left] at hw
    rw [← hv]
    exact (List.prefix_append_right_inj v).mpr hw

theorem stands_one : Stands 1 text i j ↔ i = j := by
  constructor
  · rintro ⟨word, hword, -, rfl⟩
    obtain rfl := (Language.mem_one word).mp hword
    rfl
  · rintro rfl
    exact ⟨[], Language.nil_mem_one, List.nil_prefix, rfl⟩

theorem stands_mul : Stands (L * M) text i j ↔ ∃ k, Stands L text i k ∧ Stands M text k j := by
  constructor
  · rintro ⟨word, hword, hstands, rfl⟩
    obtain ⟨v, hv, w, hw, rfl⟩ := Language.mem_mul.mp hword
    obtain ⟨hfirst, hsecond⟩ := append_prefix_drop.mp hstands
    exact ⟨_, ⟨v, hv, hfirst, rfl⟩, w, hw, hsecond, by rw [List.length_append]; omega⟩
  · rintro ⟨k, ⟨v, hv, hfirst, rfl⟩, w, hw, hsecond, rfl⟩
    exact ⟨v ++ w, Language.append_mem_mul hv hw, append_prefix_drop.mpr ⟨hfirst, hsecond⟩,
      by rw [List.length_append]; omega⟩

theorem stands_kstar : Stands L∗ text i j ↔ ∃ n, Stands (L ^ n) text i j := by
  simp only [Stands, Language.kstar_eq_iSup_pow, Language.mem_iSup]
  constructor
  · rintro ⟨word, ⟨n, hword⟩, hstands⟩
    exact ⟨n, word, hword, hstands⟩
  · rintro ⟨n, word, hword, hstands⟩
    exact ⟨word, ⟨n, hword⟩, hstands⟩

/-- Words that cover the whole text are the text. -/
theorem stands_entire : Stands L text 0 text.size ↔ text.toList ∈ L := by
  unfold Stands
  constructor
  · rintro ⟨word, hword, hstands, hlength⟩
    rw [List.drop_zero] at hstands
    have hsize : text.toList.length = text.size := Array.length_toList
    obtain rfl : word = text.toList := hstands.eq_of_length (by omega)
    exact hword
  · intro hmem
    refine ⟨text.toList, hmem, List.prefix_refl _, ?_⟩
    rw [Array.length_toList, Nat.zero_add]

/-! ## Expressions -/

theorem reads_chars (set : CodeSet) (unit : ClassUnit) :
    Reads (characters set) (.chars set unit) := by
  intro text i j
  unfold Matches
  constructor
  · rintro ⟨⟨c, hc, hset⟩, rfl⟩
    refine ⟨[c], ⟨c, hset, rfl⟩, cons_prefix_drop.mpr ⟨?_, List.nil_prefix⟩, rfl⟩
    rwa [Array.getElem?_toList]
  · rintro ⟨word, ⟨c, hset, rfl⟩, hstands, rfl⟩
    refine ⟨⟨c, ?_, hset⟩, rfl⟩
    rw [← Array.getElem?_toList]
    exact (cons_prefix_drop.mp hstands).1

namespace Reads

theorem iterate (h : Reads L r) (n : ℕ) :
    Iterate (r.Matches text) n i j ↔ Stands (L ^ n) text i j := by
  induction n generalizing i with
  | zero => rw [pow_zero, stands_one, Iterate]
  | succ n ih =>
      rw [pow_succ', stands_mul]
      simp only [Iterate, ih, h text]

/-- Any number of rounds. -/
theorem rounds_zero (h : Reads L r) (greedy : Bool) : Reads L∗ (rounds r 0 none greedy) := by
  intro text i j
  simp only [matches_rounds_none, Nat.zero_le, true_and, h.iterate, stands_kstar]

/-- At least one round. -/
theorem rounds_one (h : Reads L r) (greedy : Bool) : Reads (L * L∗) (rounds r 1 none greedy) := by
  intro text i j
  simp only [matches_rounds_none, stands_mul, stands_kstar, h.iterate]
  constructor
  · rintro ⟨n, hn, hstands⟩
    obtain ⟨n, rfl⟩ := Nat.exists_eq_add_of_le' hn
    rw [pow_succ', stands_mul] at hstands
    obtain ⟨k, hk, hrest⟩ := hstands
    exact ⟨k, hk, n, hrest⟩
  · rintro ⟨k, hk, n, hrest⟩
    refine ⟨n + 1, Nat.le_add_left 1 n, ?_⟩
    rw [pow_succ', stands_mul]
    exact ⟨k, hk, hrest⟩

end Reads

/-! ## Concatenations -/

theorem matches_seqAll_append (rs ss : List Regex) :
    (seqAll (rs ++ ss)).Matches text i j ↔
      ∃ k, (seqAll rs).Matches text i k ∧ (seqAll ss).Matches text k j := by
  unfold seqAll
  rw [List.flatMap_append, matches_chain_append]

theorem reads_seqAll_nil : Reads 1 (seqAll []) := by
  intro text i j
  rw [matches_seqAll_nil, stands_one]

theorem Reads.seqAll_singleton (h : Reads L r) : Reads L (seqAll [r]) := by
  intro text i j
  rw [matches_seqAll_cons, ← h]
  simp only [matches_seqAll_nil, exists_eq_right]

theorem Reads.seqAll_append {rs ss : List Regex} (hrs : Reads L (seqAll rs))
    (hss : Reads M (seqAll ss)) : Reads (L * M) (seqAll (rs ++ ss)) := by
  intro text i j
  rw [matches_seqAll_append, stands_mul]
  simp only [hrs text, hss text]

theorem reads_seqAll_letters (word : List Char) : Reads {word} (seqAll (word.map letter)) := by
  intro text i j
  have hliteral : seqAll (word.map letter) = literal word := by
    rw [seqAll, flatMap_factors_letters]
    rfl
  rw [hliteral, matches_literal]
  constructor
  · intro h
    exact ⟨word, rfl, h⟩
  · rintro ⟨_, rfl, h⟩
    exact h

/-- An alternative matches what its items match one after the other. -/
theorem matches_branch (frame : GroupFrame) :
    frame.branch.regex.Matches text i j ↔
      (seqAll (frame.items.reverse.map Item.regex)).Matches text i j := by
  unfold GroupFrame.branch
  split
  · next hitems =>
    rw [hitems]
    exact Iff.rfl
  · next item hitems =>
    rw [hitems]
    change _ ↔ (seqAll [item.regex]).Matches text i j
    rw [matches_seqAll_cons]
    simp only [matches_seqAll_nil, exists_eq_right]
  · exact Iff.rfl

end RegexInference.Regex
