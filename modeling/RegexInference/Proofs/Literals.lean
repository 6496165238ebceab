import RegexInference.Genotype.Sequence
import RegexInference.Genotype.SyntaxTree
import RegexInference.Proofs.Matching
import RegexInference.Proofs.Regex.Literal

/-!
# Candidates made of literals

A candidate that consists of literals is written as one escaped text, wherever the text was cut into
symbols or nodes.  So it matches this text and no other.
-/

namespace RegexInference

/-! ## Writing -/

namespace Regex

theorem escaped_append (s t : String) : escaped (s ++ t) = escaped s ++ escaped t := by
  unfold escaped
  rw [String.toList_append, List.flatMap_append, String.ofList_append]

theorem toList_escaped (text : String) : (escaped text).toList = text.toList.flatMap escapeChar :=
  String.toList_ofList

end Regex

theorem Sequence.toPattern_literals (texts : List String) :
    Sequence.toPattern ⟨texts.map Symbol.literal⟩ = Regex.escaped (String.join texts) := by
  induction texts with
  | nil => rfl
  | cons text texts ih =>
      unfold toPattern at ih ⊢
      rw [List.map_cons, List.map_cons, String.join_cons, ih, String.join_cons,
        Regex.escaped_append]
      rfl

theorem SyntaxTree.toPattern_literals (texts : List String) :
    SyntaxTree.toPattern ⟨texts.map Node.literal⟩ = Regex.escaped (String.join texts) := by
  induction texts with
  | nil => rfl
  | cons text texts ih =>
      unfold toPattern at ih ⊢
      rw [List.map_cons, Node.listToPattern, ih, String.join_cons, Regex.escaped_append]
      rfl

/-! ## Matching -/

namespace Matcher

open Regex

/-- The pattern compiles in both modes and stands for the text as it is. -/
structure MatchesExactly (pattern text : String) : Prop where
  classic : ∃ p, ofPattern pattern .classic = .ok p ∧ ∀ s, p.accepts s = true ↔ s = text
  span : ∃ p, ofPattern pattern .span = .ok p ∧ ∀ s : String,
    (p.accepts s = true ↔ text.toList <:+: s.toList) ∧
    p.longestMatch s = (if text.toList <:+: s.toList then text.length else 0) ∧
    (p.matchesEntire s = true ↔ s = text)

section

variable {text : String} (htext : text ≠ "")
include htext

theorem item?_escaped_text : ∃ item, item? (escaped text).toList = some item ∧
    item.regex = literal text.toList ∧ item.depth ≤ 1 := by
  rw [toList_escaped]
  exact item?_escaped (by simpa using htext)

theorem parse?_escaped : parse? (escaped text).toList = some (literal text.toList) := by
  obtain ⟨item, hitem, hregex, hdepth⟩ := item?_escaped_text htext
  have hlimit : item.depth ≤ nestLimit := hdepth.trans (by decide)
  rw [parse?_eq_item?, hitem, Option.bind_some, if_pos hlimit, hregex]

theorem escaped_ne_empty : escaped text ≠ "" := by
  intro hempty
  have hparse := parse?_escaped htext
  have hlength := length_le_escaped text.toList
  rw [← toList_escaped, hempty] at hlength
  have hnil : text.toList = [] := List.length_eq_zero_iff.mp (Nat.le_zero.mp hlength)
  exact htext (by simpa using hnil)

/-- An escaped text has room for the anchors as soon as it fits itself. -/
theorem anchorable_escaped (hfits : (literal text.toList).fits = true) :
    anchorable (escaped text) = true := by
  obtain ⟨item, hitem, hregex, hdepth⟩ := item?_escaped_text htext
  have hshown : endsInComment (escaped text).toList = false := by
    rw [toList_escaped]
    exact endsInComment_escaped text.toList
  have hlimit : item.depth + 2 ≤ nestLimit := (Nat.add_le_add_right hdepth 2).trans (by decide)
  have hanchored : item.regex.anchored.fits = true := by
    rw [hregex]
    exact fits_anchored_literal (by simpa using htext) hfits
  unfold anchorable
  rw [hshown, hitem]
  simp [hlimit, hanchored]

end

/-- Where a literal occurs its longest match is as long as the literal. -/
theorem longestMatch_literal (text : List Char) (s : Array Char) :
    (literal text).toProgram.longestMatch s =
      if text <:+: s.toList then text.length else 0 := by
  have hlength : ∀ start m, (literal text).toProgram.find? s start = some m →
      m.2 - m.1 = text.length := by
    intro start m hfound
    obtain ⟨-, hend⟩ := (matches_literal text).mp (find?_eq_some hfound).2
    omega
  rw [Program.longestMatch_eq hlength]
  simp only [accepts_iff, literal_occurs]

theorem escaped_matchesExactly {text : String} (htext : text ≠ "")
    (hfits : (literal text.toList).fits = true) : MatchesExactly (escaped text) text := by
  have hparse := parse?_escaped htext
  obtain ⟨p, hp⟩ := exists_ofPattern_span (escaped_ne_empty htext) hparse hfits
  have hwhole := WholeTexts.of_anchorable hp hparse (anchorable_escaped htext hfits)
  have hentire : ∀ s, p.matchesEntire s = true ↔ s = text := by
    intro s
    rw [hwhole.language, literal_entire, List.toList_toArray, String.toList_inj]
  constructor
  · obtain ⟨q, hq, hsame⟩ := hwhole.classic
    refine ⟨q, hq, fun s => ?_⟩
    rw [hsame]
    exact hentire s
  · refine ⟨p, hp, fun s => ⟨?_, ?_, hentire s⟩⟩
    · rw [accepts_eq_true hp hparse]
      exact literal_occurs text.toList
    · obtain ⟨r, hr, hprogram, -⟩ := ofPattern_span hp
      obtain rfl : literal text.toList = r := Option.some_inj.mp (hparse.symm.trans hr)
      unfold longestMatch
      rw [hprogram]
      exact longestMatch_literal text.toList _

/-- However a text is cut into literals, the sequence and the tree made of them stand for this text
as it is, unless it is too long for a pattern. -/
theorem literals_matchExactly (texts : List String) (hsome : String.join texts ≠ "") :
    ∀ pattern ∈ [Sequence.toPattern ⟨texts.map Symbol.literal⟩,
        SyntaxTree.toPattern ⟨texts.map Node.literal⟩],
      (∀ r, parse? pattern.toList = some r → r.fits = true) →
        MatchesExactly pattern (String.join texts) := by
  intro pattern hpattern hfits
  have hescaped : pattern = escaped (String.join texts) := by
    simpa [Sequence.toPattern_literals, SyntaxTree.toPattern_literals] using hpattern
  subst hescaped
  exact escaped_matchesExactly hsome (hfits _ (parse?_escaped hsome))

/-- A bracket, a backslash, a line end, a blank and a letter beyond ASCII stand for themselves. -/
theorem punctuation_matchesExactly :
    MatchesExactly (Sequence.toPattern ⟨["[a", "]\\", "", "\n é"].map Symbol.literal⟩)
        "[a]\\\n é" ∧
      MatchesExactly (SyntaxTree.toPattern ⟨["[a", "]\\", "", "\n é"].map Node.literal⟩)
        "[a]\\\n é" := by
  have hexactly := literals_matchExactly ["[a", "]\\", "", "\n é"] (by decide)
  have hfits : ∀ r, parse? (escaped "[a]\\\n é").toList = some r → r.fits = true := by
    intro r hr
    have hall : (parse? (escaped "[a]\\\n é").toList).all fits = true := by rfl
    simpa [hr] using hall
  exact ⟨hexactly _ List.mem_cons_self hfits,
    hexactly _ (List.mem_cons_of_mem _ List.mem_cons_self) hfits⟩

end Matcher

end RegexInference
