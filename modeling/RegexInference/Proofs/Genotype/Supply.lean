import Mathlib.Data.List.Nodup
import RegexInference.Genotype.SyntaxTree
import RegexInference.Proofs.Alphabet

/-!
# What an alphabet supplies to trees

A tree is made of literals, class tokens and two quantifiers.  The vocabulary selects these from the
alphabet, each kind in the order of the alphabet and without repetition.  An alphabet of other
syntax only leaves the vocabulary empty, and no node is ever drawn from it.
-/

namespace RegexInference

open RegexInference.Random

/-! ## Symbols and the leaves they offer -/

namespace ClassToken

def symbol (c : ClassToken) : Symbol := .special c.toPattern

theorem ofToken?_toPattern (c : ClassToken) : ofToken? c.toPattern = some c := by
  cases c <;> decide

theorem ofToken?_eq_some_iff {token : String} {c : ClassToken} :
    ofToken? token = some c ↔ token = c.toPattern := by
  constructor
  · intro hfound
    have hsame := List.find?_some hfound
    exact (beq_iff_eq.mp hsame).symm
  · rintro rfl
    exact ofToken?_toPattern c

end ClassToken

namespace Quantifier

def symbol (q : Quantifier) : Symbol := .special q.toPattern

theorem ofToken?_toPattern (q : Quantifier) : ofToken? q.toPattern = some q := by
  cases q <;> decide

theorem ofToken?_eq_some_iff {token : String} {q : Quantifier} :
    ofToken? token = some q ↔ token = q.toPattern := by
  constructor
  · intro hfound
    have hsame := List.find?_some hfound
    exact (beq_iff_eq.mp hsame).symm
  · rintro rfl
    exact ofToken?_toPattern q

theorem ofToken?_class (c : ClassToken) : ofToken? c.toPattern = none := by
  cases c <;> decide

end Quantifier

namespace Symbol

def literal? : Symbol → Option String
  | literal text => some text
  | special _ => none

def class? : Symbol → Option ClassToken
  | literal _ => none
  | special token => ClassToken.ofToken? token

def quantifier? : Symbol → Option Quantifier
  | literal _ => none
  | special token => Quantifier.ofToken? token

variable {symbol : Symbol}

theorem literal?_eq_some_iff {text : String} :
    symbol.literal? = some text ↔ symbol = .literal text := by
  cases symbol <;> simp [literal?]

theorem class?_eq_some_iff {c : ClassToken} : symbol.class? = some c ↔ symbol = c.symbol := by
  cases symbol <;> simp [class?, ClassToken.symbol, ClassToken.ofToken?_eq_some_iff]

theorem quantifier?_eq_some_iff {q : Quantifier} :
    symbol.quantifier? = some q ↔ symbol = q.symbol := by
  cases symbol <;> simp [quantifier?, Quantifier.symbol, Quantifier.ofToken?_eq_some_iff]

/-- A tree can have a leaf for the symbol. -/
inductive OffersLeaf : Symbol → Prop
  | literal (text : String) : OffersLeaf (.literal text)
  | token (c : ClassToken) : OffersLeaf c.symbol
  | quantifier (q : Quantifier) : OffersLeaf q.symbol

end Symbol

/-! ## Selected values -/

/-- The values are those that have their symbol among some symbols, in the same order. -/
structure Selects {α : Type} (symbolOf : α → Symbol) (symbols : List Symbol) (values : List α) :
    Prop where
  nodup : values.Nodup
  mem_iff : ∀ x, x ∈ values ↔ symbolOf x ∈ symbols
  inOrder : (values.map symbolOf).Sublist symbols

theorem selects_filterMap {α : Type} {symbolOf : α → Symbol} {value? : Symbol → Option α}
    (hvalue : ∀ {symbol x}, value? symbol = some x ↔ symbol = symbolOf x) {symbols : List Symbol}
    (hnodup : symbols.Nodup) : Selects symbolOf symbols (symbols.filterMap value?) where
  nodup := by
    apply hnodup.filterMap
    intro a b x ha hb
    rw [hvalue.mp ha, hvalue.mp hb]
  mem_iff x := by simp [List.mem_filterMap, hvalue]
  inOrder := by
    induction symbols with
    | nil => simp
    | cons symbol symbols ih =>
        have hrest := ih hnodup.of_cons
        cases hsymbol : value? symbol with
        | none =>
            rw [List.filterMap_cons_none hsymbol]
            exact hrest.cons symbol
        | some x =>
            rw [List.filterMap_cons_some hsymbol, List.map_cons, ← hvalue.mp hsymbol]
            exact hrest.cons_cons symbol

namespace NodeSupply

/-- The vocabulary is what the symbols offer, kind by kind. -/
structure DerivesFrom (v : NodeSupply) (symbols : List Symbol) : Prop where
  literals : Selects Symbol.literal symbols v.literals
  chars : Selects ClassToken.symbol symbols v.chars
  quantifiers : Selects Quantifier.symbol symbols v.quantifiers

theorem addSymbol_eq (v : NodeSupply) (symbol : Symbol) :
    v.addSymbol symbol =
      ⟨v.chars ++ symbol.class?.toList, v.literals ++ symbol.literal?.toList,
        v.quantifiers ++ symbol.quantifier?.toList⟩ := by
  cases symbol with
  | literal text => simp [addSymbol, Symbol.class?, Symbol.literal?, Symbol.quantifier?]
  | special token =>
      unfold addSymbol Symbol.class? Symbol.literal? Symbol.quantifier?
      dsimp only
      cases hclass : ClassToken.ofToken? token with
      | none => cases Quantifier.ofToken? token <;> simp
      | some c =>
          -- A class token is no quantifier, so what is not looked at is not there.
          rw [ClassToken.ofToken?_eq_some_iff.mp hclass, Quantifier.ofToken?_class]
          simp

theorem foldl_addSymbol (symbols : List Symbol) (v : NodeSupply) :
    symbols.foldl addSymbol v =
      ⟨v.chars ++ symbols.filterMap Symbol.class?, v.literals ++ symbols.filterMap Symbol.literal?,
        v.quantifiers ++ symbols.filterMap Symbol.quantifier?⟩ := by
  induction symbols generalizing v with
  | nil => simp
  | cons symbol symbols ih =>
      have hone : ∀ {α : Type} (value? : Symbol → Option α),
          (symbol :: symbols).filterMap value? =
            (value? symbol).toList ++ symbols.filterMap value? := by
        intro α value?
        rw [List.filterMap_cons]
        cases value? symbol <;> rfl
      rw [List.foldl_cons, ih, addSymbol_eq, hone, hone, hone]
      simp

theorem derivesFrom_foldl {symbols : List Symbol} (hnodup : symbols.Nodup) :
    (symbols.foldl addSymbol ⟨[], [], []⟩).DerivesFrom symbols := by
  rw [foldl_addSymbol]
  exact ⟨selects_filterMap Symbol.literal?_eq_some_iff hnodup,
    selects_filterMap Symbol.class?_eq_some_iff hnodup,
    selects_filterMap Symbol.quantifier?_eq_some_iff hnodup⟩

/-! ## Kinds that can be drawn -/

theorem kinds_eq_nil_iff {v : NodeSupply} : v.kinds = [] ↔ v = ⟨[], [], []⟩ := by
  obtain ⟨chars, literals, quantifiers⟩ := v
  simp only [kinds, List.append_eq_nil_iff, mk.injEq]
  constructor
  · simp +contextual
  · rintro ⟨rfl, rfl, rfl⟩
    simp

/-- Where there is no kind to draw, nothing is taken from the source either. -/
theorem draw_of_kinds_eq_nil {σ : Type} [Source σ] {v : NodeSupply} (hkinds : v.kinds = [])
    (source : σ) : (v.draw).run source = (none, source) := by
  unfold draw
  rw [hkinds]
  rfl

namespace DerivesFrom

variable {v : NodeSupply} {symbols : List Symbol} (h : v.DerivesFrom symbols)
include h

theorem eq_empty (hnone : ¬ ∃ symbol ∈ symbols, symbol.OffersLeaf) : v = ⟨[], [], []⟩ := by
  have hchars : v.chars = [] := by
    apply List.eq_nil_iff_forall_not_mem.mpr
    intro c hc
    exact hnone ⟨c.symbol, (h.chars.mem_iff c).mp hc, .token c⟩
  have hliterals : v.literals = [] := by
    apply List.eq_nil_iff_forall_not_mem.mpr
    intro text htext
    exact hnone ⟨.literal text, (h.literals.mem_iff text).mp htext, .literal text⟩
  have hquantifiers : v.quantifiers = [] := by
    apply List.eq_nil_iff_forall_not_mem.mpr
    intro q hq
    exact hnone ⟨q.symbol, (h.quantifiers.mem_iff q).mp hq, .quantifier q⟩
  rw [← hchars, ← hliterals, ← hquantifiers]

theorem kinds_ne_nil (hsome : ∃ symbol ∈ symbols, symbol.OffersLeaf) : v.kinds ≠ [] := by
  obtain ⟨symbol, hsymbol, hoffers⟩ := hsome
  intro hkinds
  rw [kinds_eq_nil_iff.mp hkinds] at h
  cases hoffers with
  | literal text => exact List.not_mem_nil ((h.literals.mem_iff text).mpr hsymbol)
  | token c => exact List.not_mem_nil ((h.chars.mem_iff c).mpr hsymbol)
  | quantifier q => exact List.not_mem_nil ((h.quantifiers.mem_iff q).mpr hsymbol)

end DerivesFrom

end NodeSupply

/-! ## The vocabulary of an alphabet -/

/-- Some symbol of the alphabet can be a leaf. -/
def Alphabet.OffersLeaf (alphabet : Alphabet) : Prop :=
  ∃ symbol ∈ alphabet.symbols, symbol.OffersLeaf

theorem Alphabet.symbols_ofTokens_eq_nil_iff {tokens : List String} :
    (ofTokens tokens).symbols = [] ↔ ∀ token ∈ tokens, token = "" := by
  have hmem := (lists_ofTokens tokens).mem_iff
  constructor
  · intro hnil token htoken
    by_contra hsome
    have htext := (hmem token).mpr ⟨htoken, hsome⟩
    rw [hnil] at htext
    exact List.not_mem_nil htext
  · intro hempty
    apply List.eq_nil_iff_forall_not_mem.mpr
    intro symbol hsymbol
    obtain ⟨htoken, hsome⟩ := (hmem symbol.text).mp (List.mem_map_of_mem hsymbol)
    exact hsome (hempty _ htoken)

namespace NodeSupply

/-- There is something to draw, from the alphabet if it offers anything, and from the default
vocabulary otherwise. -/
structure SuitsAlphabet (alphabet : Alphabet) (v : NodeSupply) : Prop where
  usable : v.kinds ≠ []
  derived : alphabet.OffersLeaf → v.DerivesFrom alphabet.symbols
  otherwise : ¬ alphabet.OffersLeaf → v = default

variable {alphabet : Alphabet}

theorem ofAlphabet_of_empty (hempty : alphabet.symbols = []) : ofAlphabet alphabet = default := by
  unfold ofAlphabet
  rw [hempty]
  rfl

theorem derivesFrom_ofAlphabet (hnodup : alphabet.symbols.Nodup) (hsome : alphabet.symbols ≠ []) :
    (ofAlphabet alphabet).DerivesFrom alphabet.symbols := by
  unfold ofAlphabet
  rw [if_neg (by simpa using hsome)]
  exact derivesFrom_foldl hnodup

theorem suitsAlphabet_of_empty (hempty : alphabet.symbols = []) :
    SuitsAlphabet alphabet (ofAlphabet alphabet) := by
  rw [ofAlphabet_of_empty hempty]
  refine ⟨by decide, ?_, fun _ => rfl⟩
  rintro ⟨symbol, hsymbol, -⟩
  rw [hempty] at hsymbol
  exact absurd hsymbol List.not_mem_nil

/-- The vocabulary of some tokens has what they offer.  It is of no use exactly if there are tokens
and none of them offers a leaf: then nothing can be drawn from it. -/
theorem suitsAlphabet_iff (tokens : List String) :
    (SuitsAlphabet (.ofTokens tokens) (ofAlphabet (.ofTokens tokens)) ↔
      (∀ token ∈ tokens, token = "") ∨ (Alphabet.ofTokens tokens).OffersLeaf) ∧
    ((Alphabet.ofTokens tokens).OffersLeaf →
      (ofAlphabet (.ofTokens tokens)).DerivesFrom (Alphabet.ofTokens tokens).symbols) ∧
    (∀ token ∈ tokens, token ≠ "" → ¬ (Alphabet.ofTokens tokens).OffersLeaf →
      ofAlphabet (.ofTokens tokens) = ⟨[], [], []⟩ ∧
        ∀ (σ : Type) [Source σ] (source : σ),
          (ofAlphabet (.ofTokens tokens)).draw.run source = (none, source)) := by
  have hnodup := (Alphabet.lists_ofTokens tokens).nodup
  have hderives := derivesFrom_ofAlphabet hnodup
  have hoffered : (Alphabet.ofTokens tokens).OffersLeaf →
      (Alphabet.ofTokens tokens).symbols ≠ [] := by
    rintro ⟨symbol, hsymbol, -⟩
    exact List.ne_nil_of_mem hsymbol
  have hvain : (Alphabet.ofTokens tokens).symbols ≠ [] →
      ¬ (Alphabet.ofTokens tokens).OffersLeaf → (ofAlphabet (.ofTokens tokens)).kinds = [] := by
    intro hsome hnone
    rw [kinds_eq_nil_iff]
    exact (hderives hsome).eq_empty hnone
  refine ⟨?_, fun hleaf => hderives (hoffered hleaf), ?_⟩
  · rw [← Alphabet.symbols_ofTokens_eq_nil_iff]
    constructor
    · intro hsuits
      by_contra hneither
      obtain ⟨hsome, hnone⟩ := not_or.mp hneither
      exact hsuits.usable (hvain hsome hnone)
    · rintro (hempty | hleaf)
      · exact suitsAlphabet_of_empty hempty
      · have hfrom := hderives (hoffered hleaf)
        exact ⟨hfrom.kinds_ne_nil hleaf, fun _ => hfrom, fun hnone => absurd hleaf hnone⟩
  · intro token htoken hsome hnone
    have hkinds : (ofAlphabet (.ofTokens tokens)).kinds = [] := by
      apply hvain _ hnone
      intro hempty
      exact hsome (Alphabet.symbols_ofTokens_eq_nil_iff.mp hempty token htoken)
    exact ⟨kinds_eq_nil_iff.mp hkinds, fun _ _ source => draw_of_kinds_eq_nil hkinds source⟩

/-- An alphabet with every kind of leaf and a token that is none, and one of groups only. -/
theorem suitsAlphabet_mixed :
    SuitsAlphabet (.ofTokens ["\\d", "+", "a", "?", "\\w"])
        (ofAlphabet (.ofTokens ["\\d", "+", "a", "?", "\\w"])) ∧
      (ofAlphabet (.ofTokens ["\\d", "+", "a", "?", "\\w"])).DerivesFrom
        (Alphabet.ofTokens ["\\d", "+", "a", "?", "\\w"]).symbols ∧
      ofAlphabet (.ofTokens ["(", ")"]) = ⟨[], [], []⟩ := by
  have hleaf : (Alphabet.ofTokens ["\\d", "+", "a", "?", "\\w"]).OffersLeaf :=
    ⟨.literal "a", by decide, .literal "a"⟩
  have hnone : ¬ (Alphabet.ofTokens ["(", ")"]).OffersLeaf := by
    intro hgroups
    have hderives := (suitsAlphabet_iff ["(", ")"]).2.1 hgroups
    exact hderives.kinds_ne_nil hgroups (by decide)
  obtain ⟨hsuits, hderives, -⟩ := suitsAlphabet_iff ["\\d", "+", "a", "?", "\\w"]
  obtain ⟨-, -, hvain⟩ := suitsAlphabet_iff ["(", ")"]
  exact ⟨hsuits.mpr (Or.inr hleaf), hderives hleaf,
    (hvain "(" List.mem_cons_self (by decide) hnone).1⟩

/-- Nothing can be drawn from the vocabulary of an alphabet whose only symbol is a question mark. -/
theorem question_mark_not_suited :
    (ofAlphabet (.ofTokens ["?"])).kinds = [] ∧
      ¬ SuitsAlphabet (.ofTokens ["?"]) (ofAlphabet (.ofTokens ["?"])) := by
  have hkinds : (ofAlphabet (.ofTokens ["?"])).kinds = [] := by decide
  exact ⟨hkinds, fun hsuits => hsuits.usable hkinds⟩

end NodeSupply

end RegexInference
