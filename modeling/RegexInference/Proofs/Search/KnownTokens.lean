import RegexInference.Proofs.Alphabet
import RegexInference.Proofs.Search.Interleaving

/-!
# Tokens that a search does not see

Of the tokens of its problem a search takes nothing but their alphabet: the vocabulary of its
lineages comes from there, and so does every draw.  Tokens that are empty, and tokens that are
listed again behind their first place, do not change the alphabet.  So the search draws the same
numbers with them and comes to the same report.
-/

namespace RegexInference

/-- The same texts, and the same tokens but for some that are empty or listed again. -/
structure Problem.Pads (a b : Problem) : Prop where
  alphabet : Alphabet.Pads a.alphabet b.alphabet
  good : a.good = b.good
  bad : a.bad = b.bad

namespace Search

variable {G V : Type} [Genotype G V] {a b : Problem}

/-- A search knows its problem by the alphabet and the texts. -/
theorem search_congr (halphabet : Alphabet.ofTokens b.alphabet = Alphabet.ofTokens a.alphabet)
    (hcorpus : Corpus.ofProblem b = Corpus.ofProblem a) (s : Search) (seed : UInt64)
    (cancelAt : Option Moment) :
    s.search G b seed cancelAt = s.search G a seed cancelAt := by
  unfold search runLineages
  rw [halphabet, hcorpus]

theorem interleaved_congr (halphabet : Alphabet.ofTokens b.alphabet = Alphabet.ofTokens a.alphabet)
    (hcorpus : Corpus.ofProblem b = Corpus.ofProblem a) (s : Search) (seed : UInt64)
    (schedule : List Event) :
    s.interleaved G b seed schedule = s.interleaved G a seed schedule := by
  unfold interleaved startPool evaluator
  rw [halphabet, hcorpus]

/-- The alphabet of some tokens has the different ones that are not empty, in the order in which
they came first, and is built from their texts again.  So tokens that are empty or listed again make
no difference to a search from a given seed: neither to its report nor to its progress, whenever it
is cancelled, and neither if its lineages run side by side on a schedule. -/
theorem known_tokens_sameReport (config : Config) (s : Search) (hconfig : ofConfig config = .ok s)
    (hseed : config.randomSeed.isSome = true) (h : a.Pads b) :
    (∀ tokens : List String,
      Alphabet.Lists tokens (Alphabet.ofTokens tokens).symbols ∧
        Alphabet.ofTokens ((Alphabet.ofTokens tokens).symbols.map Symbol.text) =
          Alphabet.ofTokens tokens) ∧
    (∀ entropy entropy' cancelAt,
      s.runUntil a entropy cancelAt = s.runUntil b entropy' cancelAt) ∧
    ∀ entropy entropy' schedule,
      s.runInterleaved a entropy schedule = s.runInterleaved b entropy' schedule := by
  obtain ⟨rfl, -⟩ := ofConfig_eq_ok hconfig
  obtain ⟨seed, hseed⟩ := Option.isSome_iff_exists.mp hseed
  have halphabet : Alphabet.ofTokens b.alphabet = Alphabet.ofTokens a.alphabet :=
    h.alphabet.ofTokens_eq
  have hcorpus : Corpus.ofProblem b = Corpus.ofProblem a := by
    unfold Corpus.ofProblem
    rw [h.good, h.bad]
  refine ⟨fun tokens => ⟨Alphabet.lists_ofTokens tokens, Alphabet.ofTokens_texts tokens⟩, ?_, ?_⟩
  · intro entropy entropy' cancelAt
    unfold runUntil
    rw [hseed]
    cases s.config.representation with
    | sequence => exact (search_congr halphabet hcorpus s seed cancelAt).symm
    | tree => exact (search_congr halphabet hcorpus s seed cancelAt).symm
  · intro entropy entropy' schedule
    unfold runInterleaved
    rw [hseed]
    cases s.config.representation with
    | sequence =>
        exact congrArg Pool.answer? (interleaved_congr halphabet hcorpus s seed schedule).symm
    | tree =>
        exact congrArg Pool.answer? (interleaved_congr halphabet hcorpus s seed schedule).symm

/-- Two empty tokens, and two that are listed again, one of them a class. -/
theorem repeated_digit_sameReport :
    ∃ s, ofConfig { representation := .tree, policy := .drift, randomSeed := some 7 } = .ok s ∧
      Problem.Pads ⟨["a", "\\d", "+"], ["a1"], ["b"]⟩
        ⟨["", "a", "\\d", "a", "", "+", "\\d"], ["a1"], ["b"]⟩ ∧
      s.runUntil ⟨["a", "\\d", "+"], ["a1"], ["b"]⟩ 0 (some ⟨3, 20⟩) =
        s.runUntil ⟨["", "a", "\\d", "a", "", "+", "\\d"], ["a1"], ["b"]⟩ 1 (some ⟨3, 20⟩) := by
  obtain ⟨s, hconfig⟩ := exists_ofConfig
    { representation := .tree, policy := .drift, randomSeed := some 7 } (by rfl)
  have hfirst : Alphabet.Pads ["a", "\\d", "+"] ([] ++ "" :: ["a", "\\d", "+"]) :=
    .token (.refl _) (Or.inl rfl)
  have hsecond : Alphabet.Pads ["a", "\\d", "+"] (["", "a", "\\d"] ++ "a" :: ["+"]) :=
    .token hfirst (Or.inr (by decide))
  have hthird : Alphabet.Pads ["a", "\\d", "+"] (["", "a", "\\d", "a"] ++ "" :: ["+"]) :=
    .token hsecond (Or.inl rfl)
  have hfourth : Alphabet.Pads ["a", "\\d", "+"] (["", "a", "\\d", "a", "", "+"] ++ "\\d" :: []) :=
    .token hthird (Or.inr (by decide))
  have hpads : Problem.Pads ⟨["a", "\\d", "+"], ["a1"], ["b"]⟩
      ⟨["", "a", "\\d", "a", "", "+", "\\d"], ["a1"], ["b"]⟩ := ⟨hfourth, rfl, rfl⟩
  obtain ⟨-, hsame, -⟩ := known_tokens_sameReport _ s hconfig rfl hpads
  exact ⟨s, hconfig, hpads, hsame 0 1 (some ⟨3, 20⟩)⟩

end Search

end RegexInference
