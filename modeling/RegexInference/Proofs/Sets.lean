import RegexInference.Proofs.Genotype.SetMembers
import RegexInference.Proofs.Matching

/-!
# What sets match

The pattern of a set matches single characters: those that its members are read as, at any depth.
This is the union of its literals and classes, as long as no inner set spells the name of a class
between colons, which is then read as the class.
-/

namespace RegexInference

open Regex

/-! ## Reading -/

namespace Glyph

theorem length_le_written (gs : List Glyph) : gs.length ≤ (written gs).length := by
  induction gs with
  | nil => exact Nat.le_refl 0
  | cons g gs ih =>
      have hone : 1 ≤ g.chars.length := by
        cases g with
        | opening | closing => exact Nat.le_refl 1
        | sign s =>
            obtain ⟨d, rest, hchars, -⟩ := exists_chars_eq_cons s
            rw [chars, hchars]
            simp
      rw [written_cons, List.length_append, List.length_cons]
      omega

end Glyph

namespace Node

variable {children : List Node} (hchildren : children ≠ [])
  (hmember : ∀ node ∈ children, node.IsMember)
include hchildren hmember

/-- The outermost set is read to its end, whatever stands behind it. -/
theorem readTokens_set {tail : List Char} (htail : Glyph.Behind tail) (fuel : ℕ) :
    readTokens (fuel + 1) {} (Glyph.written (glyphs (.set children)) ++ tail) =
      (readTokens fuel {} tail).map (classToken (bracketPart (listParts children)) :: ·) := by
  obtain ⟨k, hk, hread⟩ := readsAs_listGlyphs fun node hnode => (hmember node hnode).readsAs
  have hwritten := Glyph.length_le_written (listGlyphs children ++ [.closing])
  have hfuel : (Glyph.written (listGlyphs children ++ [.closing]) ++ tail).length + 1 =
      (Glyph.written (listGlyphs children ++ [.closing]) ++ tail).length - k - 1 + 1 + 1 + k := by
    rw [List.length_append] at hwritten ⊢
    simp only [List.length_cons, List.length_nil] at hwritten
    omega
  rw [glyphs, readTokens_opening htail, enter_listGlyphs (listGlyphs_ne_nil hchildren hmember)]
  dsimp only
  rw [hfuel, hread, Glyph.readClass, Glyph.close?_foldl_push]
  rfl

theorem item?_set : item? (toPattern (.set children)).toList =
    some ⟨.chars (bracketPart (listParts children)).set .character,
      (bracketPart (listParts children)).depth, true⟩ := by
  have hread := readTokens_set hchildren hmember (Or.inl rfl)
  simp only [List.append_nil] at hread
  unfold item? tokens?
  rw [toList_toPattern, hread]
  obtain ⟨n, hn⟩ : ∃ n, (Glyph.written (glyphs (.set children))).length = n + 1 := ⟨_, rfl⟩
  rw [hn, readTokens_nil]
  rfl

theorem endsInComment_set : endsInComment (toPattern (.set children)).toList = false := by
  unfold endsInComment tokens?
  rw [toList_toPattern, readTokens_set hchildren hmember (Or.inr rfl)]
  obtain ⟨n, hn⟩ : ∃ n, (Glyph.written (glyphs (.set children)) ++ closing).length = n + 1 :=
    ⟨_, rfl⟩
  rw [hn, readTokens_closing n rfl]
  rfl

end Node

/-! ## Unions -/

namespace Node

variable {c : Char}

theorem Holds.reads {node : Node} (h : node.Holds c) : node.Reads c := by
  cases node with
  | set children => exact False.elim h
  | char | literal | quantifier => exact h

theorem listReads_of_occurs {leaf : Node} {nodes : List Node} (h : Occurs leaf nodes)
    (hplain : ∀ inner, Occurs (.set inner) nodes → namedClass? inner = none) (hc : leaf.Holds c) :
    ListReads c nodes := by
  induction h with
  | here hmem => exact listReads_iff.mpr ⟨leaf, hmem, hc.reads⟩
  | inside hmem hinside ih =>
      refine listReads_iff.mpr ⟨_, hmem, ?_⟩
      rw [Reads, hplain _ (.here hmem)]
      exact ih fun inner hinner => hplain inner (.inside hmem hinner)

theorem IsMember.exists_occurs {node : Node} (h : node.IsMember) {nodes : List Node}
    (hmem : node ∈ nodes) (hplain : ∀ inner, Occurs (.set inner) nodes → namedClass? inner = none)
    (hc : node.Reads c) : ∃ leaf, Occurs leaf nodes ∧ leaf.Holds c := by
  induction h generalizing nodes with
  | digit => exact ⟨_, .here hmem, hc⟩
  | space => exact ⟨_, .here hmem, hc⟩
  | word => exact ⟨_, .here hmem, hc⟩
  | literal htext => exact ⟨_, .here hmem, hc⟩
  | @set children hchildren hmember ih =>
      rw [Reads, hplain _ (.here hmem)] at hc
      obtain ⟨child, hchild, hreads⟩ := listReads_iff.mp hc
      obtain ⟨leaf, hleaf, hholds⟩ := ih child hchild hchild
        (fun inner hinner => hplain inner (.inside hmem hinner)) hreads
      exact ⟨leaf, .inside hmem hleaf, hholds⟩

/-- Where no inner set spells the name of a class, a set is read as the union of what occurs
in it. -/
theorem listReads_iff_occurs {children : List Node} (hmember : ∀ node ∈ children, node.IsMember)
    (hplain : ∀ inner, Occurs (.set inner) children → namedClass? inner = none) :
    ListReads c children ↔ ∃ leaf, Occurs leaf children ∧ leaf.Holds c := by
  constructor
  · intro h
    obtain ⟨node, hnode, hreads⟩ := listReads_iff.mp h
    exact (hmember node hnode).exists_occurs hnode hplain hreads
  · rintro ⟨leaf, hleaf, hc⟩
    exact listReads_of_occurs hleaf hplain hc

end Node

/-! ## Matching -/

theorem Regex.matches_chars_entire {set : Unicode.CodeSet} {unit : ClassUnit} {text : String} :
    (Regex.chars set unit).Matches text.toList.toArray 0 text.toList.toArray.size ↔
      ∃ c, set.has c = true ∧ text = String.singleton c := by
  have hsingleton : ∀ c, text = String.singleton c ↔ text.toList = [c] := by
    intro c
    rw [← String.toList_inj, String.toList_singleton]
  simp only [Matches, List.size_toArray, Nat.zero_add, List.getElem?_toArray, hsingleton]
  constructor
  · rintro ⟨⟨c, hfirst, hset⟩, hlength⟩
    obtain ⟨d, hd⟩ := List.length_eq_one_iff.mp hlength
    rw [hd] at hfirst
    obtain rfl : d = c := by simpa using hfirst
    exact ⟨d, hset, hd⟩
  · rintro ⟨c, hset, htext⟩
    exact ⟨⟨c, by simp [htext], hset⟩, by simp [htext]⟩

namespace Matcher

/-- The pattern compiles in both modes, and a text is matched whole if it is a single character with
this property. -/
def MatchesCharacters (pattern : String) (P : Char → Prop) : Prop :=
  ∀ mode, ∃ p, ofPattern pattern mode = .ok p ∧
    ∀ text, p.matchesEntire text = true ↔ ∃ c, P c ∧ text = String.singleton c

/-- The pattern stays within the limits on nesting and on size, as written and between anchors. -/
def WithinLimits (pattern : String) : Prop :=
  ∀ item, item? pattern.toList = some item →
    item.depth + 2 ≤ nestLimit ∧ item.regex.fits = true ∧ item.regex.anchored.fits = true

theorem MatchesCharacters.congr_iff {pattern : String} {P Q : Char → Prop}
    (h : MatchesCharacters pattern P) : MatchesCharacters pattern Q ↔ ∀ c, P c ↔ Q c := by
  constructor
  · intro hQ c
    obtain ⟨p, hp, hmatches⟩ := h .span
    obtain ⟨q, hq, hmatches'⟩ := hQ .span
    cases hp.symm.trans hq
    have hsingle : ∀ R : Char → Prop,
        (∃ d, R d ∧ String.singleton c = String.singleton d) ↔ R c := by
      intro R
      simp [String.singleton_inj]
    rw [← hsingle P, ← hsingle Q, ← hmatches, ← hmatches']
  · intro hPQ mode
    obtain ⟨p, hp, hmatches⟩ := h mode
    exact ⟨p, hp, fun text => by simp only [hmatches, hPQ]⟩

section

variable {children : List Node} (hchildren : children ≠ [])
  (hmember : ∀ node ∈ children, node.IsMember)
  (hlimits : WithinLimits (Node.toPattern (.set children)))
include hchildren hmember hlimits

theorem set_matchesCharacters_reads :
    MatchesCharacters (Node.toPattern (.set children)) fun c => Node.ListReads c children := by
  have hitem := Node.item?_set hchildren hmember
  obtain ⟨hdepth, hfits, hanchored⟩ := hlimits _ hitem
  have hempty : Node.toPattern (.set children) ≠ "" := by
    intro hempty
    have hlist := congrArg String.toList hempty
    rw [Node.toList_toPattern] at hlist
    cases hlist
  have hreads : ∀ c, (Node.bracketPart (Node.listParts children)).set.has c = true ↔
      Node.ListReads c children :=
    fun c => Node.has_bracketPart_listParts fun node hnode => (hmember node hnode).has_parts c
  intro mode
  obtain ⟨p, hp, hentire⟩ := exists_ofPattern_item hempty hitem hdepth hfits hanchored
    (Node.endsInComment_set hchildren hmember) mode
  refine ⟨p, hp, fun text => ?_⟩
  rw [hentire, matches_chars_entire]
  simp only [hreads]

end

/-- A set of literals, classes and further sets matches the characters that its members are read as.
This is the union of the literals and classes that occur in it if no inner set spells the name of a
class between colons, and else only if reading this class there makes no difference. -/
theorem set_matchesCharacters {children : List Node} (hchildren : children ≠ [])
    (hmember : ∀ node ∈ children, node.IsMember)
    (hlimits : WithinLimits (SyntaxTree.toPattern ⟨[.set children]⟩)) :
    let pattern := SyntaxTree.toPattern ⟨[.set children]⟩
    let union := fun c => ∃ leaf, Node.Occurs leaf children ∧ leaf.Holds c
    MatchesCharacters pattern (fun c => Node.ListReads c children) ∧
      (MatchesCharacters pattern union ↔ ∀ c, Node.ListReads c children ↔ union c) ∧
      ((∀ inner, Node.Occurs (.set inner) children → Node.namedClass? inner = none) →
        MatchesCharacters pattern union) := by
  intro pattern union
  have hpattern : pattern = Node.toPattern (.set children) := String.append_empty
  change WithinLimits pattern at hlimits
  rw [hpattern] at hlimits ⊢
  have hreads := set_matchesCharacters_reads hchildren hmember hlimits
  refine ⟨hreads, hreads.congr_iff, fun hplain => hreads.congr_iff.mpr fun c => ?_⟩
  exact Node.listReads_iff_occurs hmember hplain

theorem withinLimits_of_all {pattern : String}
    (h : ((item? pattern.toList).all fun item =>
      decide (item.depth + 2 ≤ nestLimit) && (item.regex.fits && item.regex.anchored.fits)) =
        true) : WithinLimits pattern := by
  intro item hitem
  rw [hitem] at h
  simpa using h

/-- Brackets, a hyphen, a caret and colons in the literals, and two sets inside the outer one. -/
theorem nested_set_matchesCharacters :
    let inner : List Node := [.char .space, .literal ":alpha:"]
    let children : List Node := [.literal "[:a]-^", .char .digit, .set [.literal "&&", .set inner]]
    MatchesCharacters (SyntaxTree.toPattern ⟨[.set children]⟩) fun c =>
      ∃ leaf, Node.Occurs leaf children ∧ leaf.Holds c := by
  intro inner children
  have hinner : ∀ node ∈ inner, node.IsMember := by
    simp only [inner, List.mem_cons, List.not_mem_nil, or_false]
    rintro node (rfl | rfl)
    · exact .space
    · exact .literal (by decide)
  have hmember : ∀ node ∈ children, node.IsMember := by
    simp only [children, List.mem_cons, List.not_mem_nil, or_false]
    rintro node (rfl | rfl | rfl)
    · exact .literal (by decide)
    · exact .digit
    · refine .set (List.cons_ne_nil _ _) fun node hnode => ?_
      simp only [List.mem_cons, List.not_mem_nil, or_false] at hnode
      rcases hnode with rfl | rfl
      · exact .literal (by decide)
      · exact .set (List.cons_ne_nil _ _) hinner
  have hlimits : WithinLimits (SyntaxTree.toPattern ⟨[.set children]⟩) :=
    withinLimits_of_all (by decide +kernel)
  refine (set_matchesCharacters (List.cons_ne_nil _ _) hmember hlimits).2.2 ?_
  intro named hnamed
  cases hnamed with
  | here hmem =>
      obtain rfl : named = [.literal "&&", .set inner] := by simpa [children] using hmem
      rfl
  | @inside _ outer hmem hinside =>
      obtain rfl : outer = [.literal "&&", .set inner] := by simpa [children] using hmem
      cases hinside with
      | here hmem =>
          obtain rfl : named = inner := by simpa using hmem
          rfl
      | @inside _ middle hmem hinside =>
          obtain rfl : middle = inner := by simpa using hmem
          cases hinside with
          | here hmem | inside hmem => simp [inner] at hmem

/-- The escape for text outside brackets leaves colons alone.  So `[[:alpha:]]` matches a letter
that does not occur in the literal, and not the colon that does. -/
theorem named_class_not_union :
    let children : List Node := [.set [.literal ":alpha:"]]
    let pattern := SyntaxTree.toPattern ⟨[.set children]⟩
    (∀ node ∈ children, node.IsMember) ∧ WithinLimits pattern ∧
      (∃ p, ofPattern pattern .span = .ok p ∧
        p.matchesEntire ":" = false ∧ p.matchesEntire "b" = true) ∧
      ¬ MatchesCharacters pattern fun c => ∃ leaf, Node.Occurs leaf children ∧ leaf.Holds c := by
  intro children pattern
  have hmember : ∀ node ∈ children, node.IsMember := by
    intro node hnode
    obtain rfl := List.mem_singleton.mp hnode
    refine .set (List.cons_ne_nil _ _) fun node hnode => ?_
    obtain rfl := List.mem_singleton.mp hnode
    exact .literal (by decide)
  have hlimits : WithinLimits pattern := withinLimits_of_all (by decide)
  have hpattern : pattern = Node.toPattern (.set children) := String.append_empty
  have hreads : MatchesCharacters pattern fun c => Node.ListReads c children := by
    rw [hpattern] at hlimits ⊢
    exact set_matchesCharacters_reads (List.cons_ne_nil _ _) hmember hlimits
  have hnamed : Node.namedClass? [.literal ":alpha:"] =
      some (rangesOf [('A', 'Z'), ('a', 'z')]) := rfl
  have halpha : ∀ c, Node.ListReads c children ↔
      (rangesOf [('A', 'Z'), ('a', 'z')]).has c = true := by
    simp [children, Node.listReads_iff, Node.Reads, hnamed]
  have hcolon : ¬ Node.ListReads ':' children := by
    rw [halpha]
    decide
  have hletter : Node.ListReads 'b' children := by
    rw [halpha]
    rfl
  refine ⟨hmember, hlimits, ?_, fun hunion => hcolon ((hreads.congr_iff.mp hunion ':').mpr ?_)⟩
  · obtain ⟨p, hp, hmatches⟩ := hreads .span
    refine ⟨p, hp, ?_, (hmatches "b").mpr ⟨'b', hletter, rfl⟩⟩
    rw [← Bool.not_eq_true, hmatches]
    rintro ⟨c, hc, htext⟩
    obtain rfl : ':' = c := String.singleton_inj.mp htext
    exact hcolon hc
  · refine ⟨.literal ":alpha:", .inside List.mem_cons_self (.here List.mem_cons_self), ?_⟩
    rw [Node.Holds]
    decide

end Matcher

end RegexInference
