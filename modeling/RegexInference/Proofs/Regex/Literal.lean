import Mathlib.Algebra.BigOperators.Ring.List
import Mathlib.Algebra.Ring.Nat
import RegexInference.Proofs.Regex.Anchoring
import RegexInference.Proofs.Regex.Language
import RegexInference.Proofs.Regex.Spans
import RegexInference.Regex.Size

/-!
# Literal text

A text that was written as a pattern is read as the letters of the text one after the other.  It
matches where the text stands and nowhere else.  It takes one state for every byte, and no more with
anchors around it than without.
-/

namespace RegexInference.Regex

open Unicode (CodeSet)

/-- One character. -/
def letter (c : Char) : Regex := .chars (CodeSet.ofChar c) .character

/-- The characters of a text one after the other. -/
def literal (text : List Char) : Regex := chain (text.map letter)

/-! ## Reading -/

def letterToken (c : Char) : Token := .item (letter c) 0

theorem readToken_plain {c : Char} (hmeta : isMeta c = false) (rest : List Char) :
    readToken {} c rest = some (letterToken c, {}, rest) := by
  unfold readToken
  dsimp only
  split
  all_goals first
    | exact absurd hmeta (by decide)
    | rfl

theorem readEscape_meta {c : Char} (hmeta : isMeta c = true) (flags : Flags) (rest : List Char) :
    readEscape flags (c :: rest) = some (.literal ⟨c, false⟩, rest) := by
  have hpunctuation : ("\\.+*?()|[]\x7b\x7d^$#&-~".toList.all fun c =>
      (Shorthand.ofChar? c).isNone) = true := by decide
  have hnone : Shorthand.ofChar? c = none :=
    Option.isNone_iff_eq_none.mp (List.all_eq_true.mp hpunctuation c
      (List.contains_iff_mem.mp hmeta))
  unfold readEscape
  simp only [hnone, hmeta, Bool.true_or, if_true]

/-- A character that was escaped where necessary is read as that character. -/
theorem readTokens_escapeChar (c : Char) (fuel : ℕ) (rest : List Char) :
    readTokens (fuel + 1) {} (escapeChar c ++ rest) =
      (readTokens fuel {} rest).map (letterToken c :: ·) := by
  unfold escapeChar
  by_cases hmeta : isMeta c = true
  · rw [if_pos hmeta]
    have hread : readToken {} '\\' (c :: rest) = some (letterToken c, {}, rest) := by
      unfold readToken
      rw [readEscape_meta hmeta]
      rfl
    exact readTokens_cons rfl hread
  · rw [if_neg hmeta]
    exact readTokens_cons rfl (readToken_plain (by simpa using hmeta) rest)

theorem readTokens_escaped (text : List Char) (fuel : ℕ) (rest : List Char) :
    readTokens (fuel + text.length) {} (text.flatMap escapeChar ++ rest) =
      (readTokens fuel {} rest).map (text.map letterToken ++ ·) := by
  induction text with
  | nil => simp
  | cons c text ih =>
      rw [List.flatMap_cons, List.append_assoc, List.length_cons, ← Nat.add_assoc,
        readTokens_escapeChar, ih, Option.map_map]
      rfl

theorem length_le_escaped (text : List Char) : text.length ≤ (text.flatMap escapeChar).length := by
  induction text with
  | nil => rfl
  | cons c text ih =>
      have hone : 1 ≤ (escapeChar c).length := by
        unfold escapeChar
        split_ifs <;> simp
      rw [List.flatMap_cons, List.length_append, List.length_cons]
      omega

/-- There is fuel enough for what stands behind a text that takes no more steps than characters. -/
theorem tokens?_append_of_readTokens {cs rest : List Char} {tokens : List Token} {n : ℕ}
    (hle : n ≤ cs.length) (hread : ∀ fuel, readTokens (fuel + n) {} (cs ++ rest) =
      (readTokens fuel {} rest).map (tokens ++ ·)) :
    ∃ fuel, tokens? (cs ++ rest) = (readTokens (fuel + 1) {} rest).map (tokens ++ ·) := by
  have hfuel : (cs ++ rest).length + 1 = (cs.length - n + rest.length + 1) + n := by
    rw [List.length_append]
    omega
  refine ⟨cs.length - n + rest.length, ?_⟩
  unfold tokens?
  rw [hfuel, hread]

theorem tokens?_escaped_append (text rest : List Char) :
    ∃ fuel, tokens? (text.flatMap escapeChar ++ rest) =
      (readTokens (fuel + 1) {} rest).map (text.map letterToken ++ ·) :=
  tokens?_append_of_readTokens (length_le_escaped text) fun fuel => readTokens_escaped text fuel rest

theorem tokens?_escaped (text : List Char) :
    tokens? (text.flatMap escapeChar) = some (text.map letterToken) := by
  obtain ⟨fuel, hread⟩ := tokens?_escaped_append text []
  rw [List.append_nil, readTokens_nil] at hread
  simpa using hread

theorem endsInComment_escaped (text : List Char) :
    endsInComment (text.flatMap escapeChar) = false := by
  obtain ⟨fuel, hread⟩ := tokens?_escaped_append text closing
  unfold endsInComment
  rw [hread, readTokens_closing fuel rfl]
  rfl

/-! ## Joining -/

def letterItem (c : Char) : Item := ⟨letter c, 0, true⟩

theorem foldlM_step_letters (text : List Char) (state : ParseState) :
    (text.map letterToken).foldlM ParseState.step state =
      some { state with top := { state.top with
        items := (text.map letterItem).reverse ++ state.top.items } } := by
  induction text generalizing state with
  | nil => rfl
  | cons c text ih =>
      rw [List.map_cons, List.foldlM_cons]
      have hstep : state.step (letterToken c) =
          some { state with top := state.top.push (letterItem c) } := rfl
      rw [hstep]
      exact (ih _).trans (by simp [GroupFrame.push])

theorem flatMap_factors_letters (text : List Char) :
    (text.map letter).flatMap factors = text.map letter := by
  induction text with
  | nil => rfl
  | cons c text ih =>
      rw [List.map_cons, List.flatMap_cons, ih]
      rfl

theorem branch_of_length {frame : GroupFrame} (hlength : 2 ≤ frame.items.length) :
    frame.branch =
      ⟨seqAll (frame.items.reverse.map Item.regex), 1 + deepest frame.items, true⟩ := by
  unfold GroupFrame.branch
  split
  · next hitems => simp [hitems] at hlength
  · next item hitems => simp [hitems] at hlength
  · rfl

theorem depth_branch_le {frame : GroupFrame} {n : ℕ} (h : ∀ item ∈ frame.items, item.depth ≤ n) :
    frame.branch.depth ≤ n + 1 := by
  have hdeepest : deepest frame.items ≤ n := by
    apply Program.foldl_max_le _ _ (Nat.zero_le n)
    intro depth hdepth
    obtain ⟨item, hitem, rfl⟩ := List.mem_map.mp hdepth
    exact h item hitem
  unfold GroupFrame.branch
  split
  · exact Nat.zero_le _
  · next item hitems =>
    exact (h item (by simp [hitems])).trans (Nat.le_succ n)
  · change 1 + deepest frame.items ≤ n + 1
    omega

/-- Letters are joined to the literal, which is a concatenation at most. -/
theorem branch_letters {text : List Char} {frame : GroupFrame} (htext : text ≠ [])
    (hitems : frame.items = (text.map letterItem).reverse) :
    frame.branch.regex = literal text ∧ frame.branch.depth ≤ 1 := by
  constructor
  · by_cases hlength : 2 ≤ frame.items.length
    · have hregex : (text.map letterItem).map Item.regex = text.map letter := by
        simp [letterItem]
      rw [branch_of_length hlength, hitems]
      dsimp only
      rw [List.reverse_reverse, hregex, seqAll, flatMap_factors_letters]
      rfl
    · have hone : text.length = 1 := by
        have hpos := List.length_pos_of_ne_nil htext
        simp [hitems] at hlength
        omega
      obtain ⟨c, rfl⟩ := List.length_eq_one_iff.mp hone
      unfold GroupFrame.branch
      rw [hitems]
      rfl
  · apply depth_branch_le
    intro item hitem
    rw [hitems, List.mem_reverse] at hitem
    obtain ⟨c, -, rfl⟩ := List.mem_map.mp hitem
    exact Nat.le_refl 0

theorem item?_escaped {text : List Char} (htext : text ≠ []) :
    ∃ item, item? (text.flatMap escapeChar) = some item ∧ item.regex = literal text ∧
      item.depth ≤ 1 := by
  let frame : GroupFrame := { items := (text.map letterItem).reverse }
  have hitem : item? (text.flatMap escapeChar) = some frame.branch := by
    unfold item? ofTokens?
    rw [tokens?_escaped, Option.bind_some, foldlM_step_letters]
    simp [GroupFrame.content, frame]
  have hbranch : frame.branch.regex = literal text ∧ frame.branch.depth ≤ 1 :=
    branch_letters htext rfl
  exact ⟨frame.branch, hitem, hbranch⟩

/-! ## Matching -/

variable {text : Array Char}

theorem cons_prefix_drop {c : Char} {cs ds : List Char} {i : ℕ} :
    c :: cs <+: ds.drop i ↔ ds[i]? = some c ∧ cs <+: ds.drop (i + 1) := by
  by_cases hi : i < ds.length
  · rw [List.drop_eq_getElem_cons hi, List.cons_prefix_cons, List.getElem?_eq_getElem hi,
      Option.some_inj, eq_comm]
  · have hdrop : ds.drop i = [] := List.drop_eq_nil_of_le (by omega)
    have hnone : ds[i]? = none := List.getElem?_eq_none (by omega)
    simp [hdrop, hnone]

theorem matches_letter {c : Char} {i j : ℕ} :
    (letter c).Matches text i j ↔ text.toList[i]? = some c ∧ j = i + 1 := by
  unfold letter Matches
  simp only [CodeSet.has_ofChar, beq_iff_eq, Array.getElem?_toList]
  constructor
  · rintro ⟨⟨d, hd, rfl⟩, rfl⟩
    exact ⟨hd, rfl⟩
  · rintro ⟨hc, rfl⟩
    exact ⟨⟨c, hc, rfl⟩, rfl⟩

/-- A literal matches where its text stands. -/
theorem matches_literal (cs : List Char) {i j : ℕ} :
    (literal cs).Matches text i j ↔ cs <+: text.toList.drop i ∧ j = i + cs.length := by
  induction cs generalizing i with
  | nil =>
      constructor
      · rintro rfl
        exact ⟨List.nil_prefix, rfl⟩
      · rintro ⟨-, rfl⟩
        rfl
  | cons c cs ih =>
      have hchain : (literal (c :: cs)).Matches text i j ↔
          ∃ k, (letter c).Matches text i k ∧ (literal cs).Matches text k j :=
        matches_chain_cons (letter c) (cs.map letter)
      rw [hchain, cons_prefix_drop]
      simp only [matches_letter, ih, List.length_cons]
      constructor
      · rintro ⟨k, ⟨hc, rfl⟩, hstands, rfl⟩
        exact ⟨⟨hc, hstands⟩, by omega⟩
      · rintro ⟨⟨hc, hstands⟩, rfl⟩
        exact ⟨i + 1, ⟨hc, rfl⟩, hstands, by omega⟩

/-- Some part of a text matches if the literal occurs in it. -/
theorem literal_occurs (cs : List Char) :
    (∃ i j, i ≤ text.size ∧ (literal cs).Matches text i j) ↔ cs <:+: text.toList := by
  simp only [matches_literal]
  rw [List.infix_iff_prefix_suffix]
  constructor
  · rintro ⟨i, j, -, hstands, -⟩
    exact ⟨text.toList.drop i, hstands, List.drop_suffix i text.toList⟩
  · rintro ⟨behind, hstands, hsuffix⟩
    have hdrop := List.suffix_iff_eq_drop.mp hsuffix
    exact ⟨text.toList.length - behind.length, _, by simp, hdrop ▸ hstands, rfl⟩

theorem literal_entire (cs : List Char) :
    (literal cs).Matches text 0 text.size ↔ text.toList = cs := by
  rw [matches_literal, List.drop_zero, Nat.zero_add]
  constructor
  · rintro ⟨hstands, hlength⟩
    exact (hstands.eq_of_length (by simpa using hlength.symm)).symm
  · rintro rfl
    exact ⟨List.prefix_refl _, by simp⟩

/-! ## Size -/

theorem only?_ofChar (c : Char) : (CodeSet.ofChar c).only? = some c := by
  have hbounds : (CodeSet.ofChar c).bounds = [c.toNat, c.toNat + 1] := by
    unfold CodeSet.ofChar CodeSet.single CodeSet.range
    simp
  unfold CodeSet.only?
  rw [hbounds]
  simp

theorem bytes_chain (scale : Scale) {rs : List Regex} (hrs : rs ≠ []) :
    (chain rs).bytes scale false = (rs.map (bytes scale false)).sum := by
  induction rs with
  | nil => exact absurd rfl hrs
  | cons r rs ih =>
      cases rs with
      | nil => rfl
      | cons s rs =>
          have hrest := ih (List.cons_ne_nil s rs)
          rw [List.map_cons, List.sum_cons, ← hrest]
          simp [chain, bytes, bytes.way]

theorem bytes_letter (scale : Scale) (c : Char) :
    (letter c).bytes scale false = stateBytes * (Unicode.Utf8.encode c.toNat).length := by
  unfold letter bytes Scale.chars
  rw [only?_ofChar]
  simp [bytes.way]

/-- A literal takes one state for every byte, whichever way it is read. -/
theorem bytes_literal (scale : Scale) {text : List Char} (htext : text ≠ []) :
    (literal text).bytes scale false =
      stateBytes * (text.flatMap fun c => Unicode.Utf8.encode c.toNat).length := by
  unfold literal
  rw [bytes_chain scale (by simpa using htext), List.map_map]
  simp only [Function.comp_def, bytes_letter, List.length_flatMap]
  exact List.sum_map_mul_left text (fun c => (Unicode.Utf8.encode c.toNat).length) stateBytes

theorem factors_chain (rs : List Regex) : (chain rs).factors = rs.flatMap factors := by
  induction rs with
  | nil => rfl
  | cons r rs ih =>
      cases rs with
      | nil => simp [chain]
      | cons s rs =>
          rw [List.flatMap_cons, ← ih]
          rfl

theorem anchored_literal (text : List Char) :
    (literal text).anchored = chain ([look .textStart] ++ text.map letter ++ [look .textEnd]) := by
  have hfactors : (literal text).factors = text.map letter :=
    (factors_chain _).trans (flatMap_factors_letters text)
  unfold anchored seqAll
  simp only [List.flatMap_cons, hfactors, List.flatMap_nil, List.append_nil]
  rfl

theorem bytes_anchored_literal (scale : Scale) {text : List Char} (htext : text ≠ []) :
    (literal text).anchored.bytes scale false =
      2 * stateBytes + (literal text).bytes scale false := by
  rw [anchored_literal, bytes_chain scale (by simp)]
  unfold literal
  rw [bytes_chain scale (by simpa using htext)]
  simp [bytes, bytes.way]
  omega

theorem beginsWith_chain_cons (r : Regex) (rs : List Regex) (assertion : Look)
    (hr : r.beginsWith assertion = true) : (chain (r :: rs)).beginsWith assertion = true := by
  cases rs with
  | nil => exact hr
  | cons s rs => simp [chain, beginsWith, hr]

theorem endsWith_chain_concat (rs : List Regex) (r : Regex) (assertion : Look)
    (hr : r.endsWith assertion = true) : (chain (rs ++ [r])).endsWith assertion = true := by
  induction rs with
  | nil => exact hr
  | cons s rs ih =>
      have hrest : rs ++ [r] ≠ [] := by simp
      obtain ⟨t, ts, hts⟩ := List.exists_cons_of_ne_nil hrest
      rw [hts] at ih
      rw [List.cons_append, hts]
      simp [chain, endsWith, ih]

theorem beginsWith_literal {text : List Char} (htext : text ≠ []) (assertion : Look) :
    (literal text).beginsWith assertion = false := by
  rcases text with _ | ⟨c, _ | ⟨d, text⟩⟩
  · exact absurd rfl htext
  · rfl
  · simp [literal, chain, letter, beginsWith, isEmptyOnly]

/-- The anchors take two states, and save those that skip the text in front of a match. -/
theorem fits_anchored_literal {text : List Char} (htext : text ≠ [])
    (hfits : (literal text).fits = true) : (literal text).anchored.fits = true := by
  have hbegins : (literal text).anchored.beginsWith .textStart = true := by
    rw [anchored_literal]
    exact beginsWith_chain_cons _ _ _ rfl
  have hends : (literal text).anchored.endsWith .textEnd = true := by
    rw [anchored_literal]
    exact endsWith_chain_concat _ _ _ rfl
  unfold fits bytesAtMost forwardBytes backwardBytes at hfits ⊢
  rw [beginsWith_literal htext] at hfits
  rw [hbegins, hends]
  simp only [bytes_anchored_literal _ htext, bytes_literal _ htext, Bool.or_eq_true,
    Bool.and_eq_true, decide_eq_true_eq] at hfits ⊢
  simp only [skipBytes, choiceBytes, wayBytes, stateBytes, forwardScale, estimateScale] at hfits ⊢
  simp at hfits ⊢
  omega

end RegexInference.Regex
