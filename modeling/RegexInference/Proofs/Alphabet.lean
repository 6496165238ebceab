import Mathlib.Data.List.Induction
import Mathlib.Data.List.Nodup
import Mathlib.Tactic.SplitIfs
import RegexInference.Alphabet

/-!
# Alphabets as sets in order

A symbol keeps the text of its token, so different tokens are different symbols.  The alphabet of
some tokens has each of them once, at the place where it came first, and leaves out the empty one.
It is built from its own texts again, and it does not see a token that is empty or known already.
-/

namespace RegexInference

namespace Symbol

@[simp] theorem text_ofToken (token : String) : (ofToken token).text = token := by
  unfold ofToken
  split_ifs
  · rfl
  · rfl

/-- The symbol is what its text is classified as. -/
def IsClassified (symbol : Symbol) : Prop := symbol = ofToken symbol.text

theorem isClassified_ofToken (token : String) : (ofToken token).IsClassified := by
  unfold IsClassified
  rw [text_ofToken]

end Symbol

namespace Alphabet

open RegexInference.Symbol

/-- The symbols stand for the tokens that are not empty, each once and in the order in which they
came first. -/
structure Lists (tokens : List String) (symbols : List Symbol) : Prop where
  classified : ∀ symbol ∈ symbols, symbol.IsClassified
  nodup : symbols.Nodup
  mem_iff : ∀ token, token ∈ symbols.map text ↔ token ∈ tokens ∧ token ≠ ""
  inOrder : (symbols.map text).Pairwise fun a b => tokens.idxOf a < tokens.idxOf b

/-! ## One token -/

variable {symbols : List Symbol} {token : String}

theorem addToken_empty (symbols : List Symbol) : addToken symbols "" = symbols := rfl

theorem addToken_of_mem (hmem : ofToken token ∈ symbols) : addToken symbols token = symbols := by
  unfold addToken
  simp [hmem]

theorem addToken_of_notMem (hsome : token ≠ "") (hnew : ofToken token ∉ symbols) :
    addToken symbols token = symbols ++ [ofToken token] := by
  unfold addToken
  simp [hsome, hnew]

theorem ofToken_mem_iff (hclassified : ∀ symbol ∈ symbols, symbol.IsClassified) :
    ofToken token ∈ symbols ↔ token ∈ symbols.map text := by
  constructor
  · intro hmem
    exact List.mem_map.mpr ⟨ofToken token, hmem, text_ofToken token⟩
  · intro hmem
    obtain ⟨symbol, hsymbol, rfl⟩ := List.mem_map.mp hmem
    rw [← hclassified symbol hsymbol]
    exact hsymbol

namespace Lists

variable {tokens : List String}

theorem nil : Lists [] [] where
  classified _ hmem := absurd hmem List.not_mem_nil
  nodup := List.nodup_nil
  mem_iff _ := by simp
  inOrder := List.Pairwise.nil

theorem ofToken_mem_iff (h : Lists tokens symbols) :
    ofToken token ∈ symbols ↔ token ∈ tokens ∧ token ≠ "" :=
  (Alphabet.ofToken_mem_iff h.classified).trans (h.mem_iff token)

/-- A token that is empty or known already leaves the symbols as they are. -/
theorem addToken_of_known (h : Lists tokens symbols) (hknown : token = "" ∨ token ∈ tokens) :
    addToken symbols token = symbols := by
  by_cases hempty : token = ""
  · rw [hempty, addToken_empty]
  · exact addToken_of_mem (h.ofToken_mem_iff.mpr ⟨hknown.resolve_left hempty, hempty⟩)

/-- Places of known tokens are not moved by a token behind them. -/
theorem inOrder_concat (h : Lists tokens symbols) :
    (symbols.map text).Pairwise fun a b =>
      (tokens ++ [token]).idxOf a < (tokens ++ [token]).idxOf b := by
  refine h.inOrder.imp_of_mem fun {a b} ha hb hlt => ?_
  rw [List.idxOf_append_of_mem ((h.mem_iff a).mp ha).1,
    List.idxOf_append_of_mem ((h.mem_iff b).mp hb).1]
  exact hlt

theorem concat (h : Lists tokens symbols) (token : String) :
    Lists (tokens ++ [token]) (addToken symbols token) := by
  by_cases hknown : token = "" ∨ token ∈ tokens
  · rw [h.addToken_of_known hknown]
    refine ⟨h.classified, h.nodup, fun other => ?_, h.inOrder_concat⟩
    rw [h.mem_iff, List.mem_append, List.mem_singleton]
    constructor
    · exact fun hother => ⟨Or.inl hother.1, hother.2⟩
    · rintro ⟨hold | rfl, hsome⟩
      · exact ⟨hold, hsome⟩
      · exact ⟨hknown.resolve_left hsome, hsome⟩
  · obtain ⟨hsome, hnew⟩ := not_or.mp hknown
    have hnotMem : ofToken token ∉ symbols := fun hmem => hnew (h.ofToken_mem_iff.mp hmem).1
    rw [addToken_of_notMem hsome hnotMem]
    constructor
    · intro symbol hsymbol
      rcases List.mem_append.mp hsymbol with hold | hlast
      · exact h.classified symbol hold
      · rw [List.mem_singleton.mp hlast]
        exact isClassified_ofToken token
    · rw [← List.concat_eq_append]
      exact h.nodup.concat hnotMem
    · intro other
      rw [List.map_append, List.mem_append, h.mem_iff, List.mem_append]
      simp only [List.map_cons, List.map_nil, text_ofToken, List.mem_singleton]
      constructor
      · rintro (hold | rfl)
        · exact ⟨Or.inl hold.1, hold.2⟩
        · exact ⟨Or.inr rfl, hsome⟩
      · rintro ⟨hold | hlast, hother⟩
        · exact Or.inl ⟨hold, hother⟩
        · exact Or.inr hlast
    · rw [List.map_append, List.pairwise_append]
      refine ⟨h.inOrder_concat, List.pairwise_singleton _ _, fun a ha b hb => ?_⟩
      have hlast : b = token := by simpa using hb
      have hold : a ∈ tokens := ((h.mem_iff a).mp ha).1
      rw [hlast, List.idxOf_append_of_mem hold, List.idxOf_append_of_notMem hnew]
      exact Nat.lt_of_lt_of_le (List.idxOf_lt_length_of_mem hold) (Nat.le_add_right _ _)

end Lists

/-! ## All tokens -/

theorem symbols_ofTokens_append (before after : List String) :
    (ofTokens (before ++ after)).symbols = after.foldl addToken (ofTokens before).symbols :=
  List.foldl_append

theorem lists_ofTokens (tokens : List String) : Lists tokens (ofTokens tokens).symbols := by
  induction tokens using List.reverseRecOn with
  | nil => exact .nil
  | append_singleton tokens token ih =>
      rw [symbols_ofTokens_append]
      exact ih.concat token

/-- Different symbols are all found new when they are built from their texts. -/
theorem foldl_addToken_texts {front back : List Symbol} (hnodup : (front ++ back).Nodup)
    (hclassified : ∀ symbol ∈ back, symbol.IsClassified)
    (hsome : ∀ symbol ∈ back, symbol.text ≠ "") :
    (back.map text).foldl addToken front = front ++ back := by
  induction back generalizing front with
  | nil => simp
  | cons symbol back ih =>
      obtain ⟨hsymbol, hclassified⟩ := List.forall_mem_cons.mp hclassified
      obtain ⟨htext, hsome⟩ := List.forall_mem_cons.mp hsome
      have hsame : ofToken symbol.text = symbol := hsymbol.symm
      have hnew : symbol ∉ front := by
        intro hmem
        exact (List.nodup_append.mp hnodup).2.2 symbol hmem symbol List.mem_cons_self rfl
      have hshifted : (front ++ [symbol]) ++ back = front ++ symbol :: back := by simp
      rw [List.map_cons, List.foldl_cons, addToken_of_notMem htext (by rwa [hsame]), hsame,
        ih (by rwa [hshifted]) hclassified hsome, hshifted]

theorem ofTokens_texts (tokens : List String) :
    ofTokens ((ofTokens tokens).symbols.map text) = ofTokens tokens := by
  have hlists := lists_ofTokens tokens
  have hsome : ∀ symbol ∈ (ofTokens tokens).symbols, symbol.text ≠ "" := by
    intro symbol hsymbol
    exact ((hlists.mem_iff symbol.text).mp (List.mem_map_of_mem hsymbol)).2
  exact congrArg Alphabet.mk (foldl_addToken_texts hlists.nodup hlists.classified hsome)

/-! ## Tokens that come in between -/

/-- The second list has all tokens of the first one in their order, and between them others that are
empty or stand in front of their place already. -/
inductive Pads : List String → List String → Prop where
  | refl (tokens : List String) : Pads tokens tokens
  | token {tokens before after : List String} {token : String} (h : Pads tokens (before ++ after))
      (hknown : token = "" ∨ token ∈ before) : Pads tokens (before ++ token :: after)

theorem ofTokens_insert {before after : List String} (hknown : token = "" ∨ token ∈ before) :
    ofTokens (before ++ token :: after) = ofTokens (before ++ after) := by
  have hsymbols : (ofTokens (before ++ token :: after)).symbols =
      (ofTokens (before ++ after)).symbols := by
    rw [symbols_ofTokens_append, symbols_ofTokens_append, List.foldl_cons,
      (lists_ofTokens before).addToken_of_known hknown]
  exact congrArg Alphabet.mk hsymbols

theorem Pads.ofTokens_eq {tokens padded : List String} (h : Pads tokens padded) :
    ofTokens padded = ofTokens tokens := by
  induction h with
  | refl => rfl
  | token h hknown ih => rw [ofTokens_insert hknown, ih]

end Alphabet

end RegexInference
