import RegexInference.Proofs.Regex.Words
import RegexInference.Proofs.Sets

/-!
# What quantifiers repeat

A quantifier is written behind the sibling that it belongs to.  In the pattern it repeats a single
item, and every character of a literal is an item by itself.  So behind a class it repeats the class,
and behind a literal the last character of the literal and nothing in front of it.
-/

namespace RegexInference

open Regex
open Unicode (CodeSet)
open scoped Computability

/-! ## Siblings -/

/-- What a quantifier may stand behind: the classes for digits, blanks and word characters, and the
literals that are not empty. -/
inductive Element where
  | digit
  | space
  | word
  | literal (text : String) (hsome : text ≠ "")

/-- An element with the quantifier behind it, if there is one. -/
structure Sibling where
  element : Element
  quantifier : Option Quantifier

/-- What a quantifier makes of the texts that it repeats. -/
def Quantifier.repeats (L : Language Char) : Quantifier → Language Char
  | oneOrMore => L * L∗
  | zeroOrMore => L∗

namespace Element

def node : Element → Node
  | digit => .char .digit
  | space => .char .space
  | word => .char .word
  | literal text _ => .literal text

/-- The texts that the element matches by itself. -/
def language : Element → Language Char
  | digit => characters Shorthand.digit.unicodeSet
  | space => characters Shorthand.space.unicodeSet
  | word => characters Shorthand.word.unicodeSet
  | literal text _ => {text.toList}

/-- What lies in front of the last character. -/
def front : Element → List Char
  | literal text _ => text.toList.dropLast
  | _ => []

/-- The set of the last character. -/
def last : Element → CodeSet
  | digit => Shorthand.digit.unicodeSet
  | space => Shorthand.space.unicodeSet
  | word => Shorthand.word.unicodeSet
  | literal text hsome => CodeSet.ofChar (text.toList.getLast (by simpa using hsome))

end Element

namespace Sibling

def nodes (s : Sibling) : List Node :=
  s.element.node :: (s.quantifier.map Node.quantifier).toList

/-- The texts of the sibling if its quantifier repeats the whole element. -/
def language (s : Sibling) : Language Char :=
  match s.quantifier with
  | none => s.element.language
  | some q => q.repeats s.element.language

/-- The texts of the sibling as it is written, where its quantifier repeats the last character. -/
def written (s : Sibling) : Language Char :=
  match s.quantifier with
  | none => s.element.language
  | some q => {s.element.front} * q.repeats (characters s.element.last)

end Sibling

theorem Element.language_eq (e : Element) : e.language = {e.front} * characters e.last := by
  have hclass : ∀ set, characters set = {[]} * characters set :=
    fun set => (one_mul (characters set)).symm
  cases e with
  | digit | space | word => exact hclass _
  | literal text hsome =>
      rw [last, characters_ofChar, front, singleton_mul_singleton,
        List.dropLast_append_getLast]
      rfl

/-- Behind a single character the quantifier repeats the whole element. -/
theorem Sibling.written_eq {s : Sibling} (h : s.quantifier.isSome → s.element.front = []) :
    s.written = s.language := by
  unfold written language
  cases hquantifier : s.quantifier with
  | none => rfl
  | some q =>
      have hfront : s.element.front = [] := h (by rw [hquantifier]; rfl)
      have hone : ({[]} : Language Char) = 1 := rfl
      simp only [s.element.language_eq, hfront, hone, one_mul]

/-! ## Writing -/

namespace Element

def signs : Element → List Sign
  | digit => [.token .digit]
  | space => [.token .space]
  | word => [.token .word]
  | literal text _ => text.toList.map Sign.letter

theorem glyphs_node (e : Element) : e.node.glyphs = e.signs.map Glyph.sign := by
  cases e with
  | digit | space | word => rfl
  | literal text hsome => exact (List.map_map ..).symm

theorem map_toToken_signs (e : Element) :
    e.signs.map Sign.toToken =
      e.front.map letterToken ++ [.item (.chars e.last .character) 0] := by
  cases e with
  | digit | space | word => rfl
  | literal text hsome =>
      have hletters : (text.toList.map Sign.letter).map Sign.toToken =
          text.toList.map letterToken := List.map_map ..
      have hlast : [Token.item (.chars (literal text hsome).last .character) 0] =
          [text.toList.getLast (by simpa using hsome)].map letterToken := rfl
      rw [signs, hletters, front, hlast, ← List.map_append, List.dropLast_append_getLast]

end Element

theorem Node.listGlyphs_append (xs ys : List Node) :
    listGlyphs (xs ++ ys) = listGlyphs xs ++ listGlyphs ys := by
  induction xs with
  | nil => rfl
  | cons x xs ih => rw [List.cons_append, listGlyphs, ih, ← List.append_assoc]; rfl

namespace Sibling

def signs (s : Sibling) : List Sign :=
  s.element.signs ++ (s.quantifier.map Sign.quantifier).toList

theorem listGlyphs_nodes (s : Sibling) :
    Node.listGlyphs s.nodes = s.signs.map Glyph.sign := by
  obtain ⟨e, q⟩ := s
  cases q with
  | none => simp [nodes, signs, Node.listGlyphs, e.glyphs_node]
  | some q => simp [nodes, signs, Node.listGlyphs, Node.glyphs, e.glyphs_node]

theorem listGlyphs_flatMap (siblings : List Sibling) :
    Node.listGlyphs (siblings.flatMap nodes) = (siblings.flatMap signs).map Glyph.sign := by
  induction siblings with
  | nil => rfl
  | cons s siblings ih =>
      rw [List.flatMap_cons, Node.listGlyphs_append, s.listGlyphs_nodes, ih, List.flatMap_cons,
        List.map_append]

end Sibling

/-! ## Reading -/

namespace Glyph

theorem readTokens_signs (signs : List Sign) {tail : List Char} (htail : Behind tail) (fuel : ℕ) :
    readTokens (fuel + signs.length) {} (written (signs.map sign) ++ tail) =
      (readTokens fuel {} tail).map (signs.map Sign.toToken ++ ·) := by
  induction signs with
  | nil => simp
  | cons s signs ih =>
      rw [List.map_cons, written_cons, List.append_assoc, List.length_cons, ← Nat.add_assoc]
      exact (readTokens_sign s (unmarked_written _ htail) _).trans (by rw [ih, Option.map_map]; rfl)

theorem tokens?_signs_append (signs : List Sign) {tail : List Char} (htail : Behind tail) :
    ∃ fuel, tokens? (written (signs.map sign) ++ tail) =
      (readTokens (fuel + 1) {} tail).map (signs.map Sign.toToken ++ ·) := by
  have hle := length_le_written (signs.map sign)
  rw [List.length_map] at hle
  exact tokens?_append_of_readTokens hle (readTokens_signs signs htail)

theorem tokens?_signs (signs : List Sign) :
    tokens? (written (signs.map sign)) = some (signs.map Sign.toToken) := by
  obtain ⟨fuel, hread⟩ := tokens?_signs_append signs (Or.inl rfl)
  rw [List.append_nil, readTokens_nil] at hread
  simpa using hread

theorem endsInComment_signs (signs : List Sign) :
    endsInComment (written (signs.map sign)) = false := by
  obtain ⟨fuel, hread⟩ := tokens?_signs_append signs (Or.inr rfl)
  unfold endsInComment
  rw [hread, readTokens_closing fuel rfl]
  rfl

end Glyph

/-! ## Joining -/

namespace Sibling

/-- The item that a quantifier repeats. -/
def lastItem (s : Sibling) : Item :=
  let r : Regex := .chars s.element.last .character
  match s.quantifier with
  | none => ⟨r, 0, true⟩
  | some .oneOrMore => ⟨.rounds r 1 none true, 1, true⟩
  | some .zeroOrMore => ⟨.rounds r 0 none true, 1, true⟩

def items (s : Sibling) : List Item := s.element.front.map letterItem ++ [s.lastItem]

/-- The parser's state behind further items. -/
def behind (items : List Item) (state : ParseState) : ParseState :=
  { state with top := { state.top with items := items.reverse ++ state.top.items } }

theorem behind_append (xs ys : List Item) (state : ParseState) :
    behind (xs ++ ys) state = behind ys (behind xs state) := by
  simp [behind]

theorem foldlM_step (s : Sibling) (state : ParseState) :
    (s.signs.map Sign.toToken).foldlM ParseState.step state = some (behind s.items state) := by
  obtain ⟨e, q⟩ := s
  have helement : (e.signs.map Sign.toToken).foldlM ParseState.step state =
      some (behind [⟨.chars e.last .character, 0, true⟩] (behind (e.front.map letterItem) state)) := by
    rw [e.map_toToken_signs, List.foldlM_append, foldlM_step_letters]
    rfl
  unfold signs items
  rw [List.map_append, List.foldlM_append, helement, behind_append]
  cases q with
  | none => rfl
  | some q => cases q <;> rfl

theorem foldlM_step_flatMap (siblings : List Sibling) (state : ParseState) :
    ((siblings.flatMap signs).map Sign.toToken).foldlM ParseState.step state =
      some (behind (siblings.flatMap items) state) := by
  induction siblings generalizing state with
  | nil => rfl
  | cons s siblings ih =>
      rw [List.flatMap_cons, List.map_append, List.foldlM_append, foldlM_step, List.flatMap_cons,
        behind_append]
      exact ih _

theorem depth_le_of_mem_items {s : Sibling} {item : Item} (hitem : item ∈ s.items) :
    item.depth ≤ 1 := by
  rcases List.mem_append.mp hitem with hletter | hlast
  · obtain ⟨c, -, rfl⟩ := List.mem_map.mp hletter
    exact Nat.zero_le 1
  · rw [List.mem_singleton.mp hlast]
    unfold lastItem
    split <;> simp

/-! ## Matching -/

theorem reads_items (s : Sibling) : Reads s.written (seqAll (s.items.map Item.regex)) := by
  have hlast := reads_chars s.element.last .character
  have hrepeated : Reads (match s.quantifier with
      | none => characters s.element.last
      | some q => q.repeats (characters s.element.last)) s.lastItem.regex := by
    unfold lastItem
    rcases s.quantifier with _ | _ | _
    · exact hlast
    · exact hlast.rounds_one true
    · exact hlast.rounds_zero true
  have hfront : (s.element.front.map letterItem).map Item.regex = s.element.front.map letter :=
    List.map_map ..
  have hwritten : s.written = {s.element.front} * (match s.quantifier with
      | none => characters s.element.last
      | some q => q.repeats (characters s.element.last)) := by
    unfold written
    cases s.quantifier with
    | none => exact s.element.language_eq
    | some q => rfl
  rw [items, List.map_append, hfront, hwritten]
  exact (reads_seqAll_letters _).seqAll_append hrepeated.seqAll_singleton

theorem reads_flatMap_items (siblings : List Sibling) :
    Reads (siblings.map written).prod (seqAll ((siblings.flatMap items).map Item.regex)) := by
  induction siblings with
  | nil => exact reads_seqAll_nil
  | cons s siblings ih =>
      rw [List.map_cons, List.prod_cons, List.flatMap_cons, List.map_append]
      exact s.reads_items.seqAll_append ih

end Sibling

/-! ## Repeating a literal -/

theorem Quantifier.append_self_mem_repeats {L : Language Char} {word : List Char} (h : word ∈ L)
    (q : Quantifier) : word ++ word ∈ q.repeats L := by
  have hone : word ∈ L∗ := by
    refine Language.mem_kstar.mpr ⟨[word], by simp, ?_⟩
    simpa using h
  cases q with
  | oneOrMore => exact Language.append_mem_mul h hone
  | zeroOrMore => exact mul_kstar_le_kstar (a := L) (Language.append_mem_mul h hone)

theorem Quantifier.mem_kstar_of_mem_repeats {L : Language Char} {q : Quantifier} {word : List Char}
    (h : word ∈ q.repeats L) : word ∈ L∗ := by
  cases q with
  | oneOrMore => exact mul_kstar_le_kstar (a := L) h
  | zeroOrMore => exact h

theorem dvd_length_of_mem_kstar {text word : List Char} (h : word ∈ ({text} : Language Char)∗) :
    text.length ∣ word.length := by
  obtain ⟨rounds, rfl, hrounds⟩ := Language.mem_kstar.mp h
  rw [List.length_flatten]
  apply List.dvd_sum
  intro n hn
  obtain ⟨round, hround, rfl⟩ := List.mem_map.mp hn
  obtain rfl : round = text := hrounds round hround
  exact dvd_rfl

/-- The last character of a literal can be repeated without what is in front of it.  This makes a
text that no number of rounds of the whole literal makes. -/
theorem Sibling.written_ne {s : Sibling} (hquantifier : s.quantifier.isSome)
    (hfront : s.element.front ≠ []) : s.written ≠ s.language := by
  obtain ⟨e, q⟩ := s
  obtain ⟨q, rfl⟩ := Option.isSome_iff_exists.mp hquantifier
  cases e with
  | digit | space | word => exact absurd rfl hfront
  | literal text hsome =>
      have htext : text.toList ≠ [] := by simpa using hsome
      have hlast : characters (Element.literal text hsome).last = {[text.toList.getLast htext]} :=
        characters_ofChar _
      have htwice : [text.toList.getLast htext] ++ [text.toList.getLast htext] ∈
          q.repeats {[text.toList.getLast htext]} :=
        q.append_self_mem_repeats (Set.mem_singleton _)
      have hwritten : text.toList.dropLast ++
          ([text.toList.getLast htext] ++ [text.toList.getLast htext]) ∈
            Sibling.written ⟨.literal text hsome, some q⟩ := by
        unfold Sibling.written
        rw [hlast]
        exact Language.append_mem_mul rfl htwice
      intro heq
      rw [heq] at hwritten
      have hdvd := dvd_length_of_mem_kstar (Quantifier.mem_kstar_of_mem_repeats hwritten)
      have hlength : text.toList.dropLast.length + 1 = text.toList.length := by
        rw [List.length_dropLast]
        exact Nat.sub_add_cancel (List.length_pos_of_ne_nil htext)
      have hpos : 0 < text.toList.dropLast.length := List.length_pos_of_ne_nil hfront
      rw [← List.append_assoc, List.dropLast_append_getLast, List.length_append,
        List.length_singleton, Nat.dvd_add_right dvd_rfl, Nat.dvd_one] at hdvd
      omega

/-! ## Compiling -/

namespace Matcher

/-- The pattern compiles in both modes, and the texts that it matches whole are the language. -/
def MatchesLanguage (pattern : String) (L : Language Char) : Prop :=
  ∀ mode, ∃ p, ofPattern pattern mode = .ok p ∧
    ∀ text, p.matchesEntire text = true ↔ text.toList ∈ L

/-- The pattern stays within the size limit, as written and between anchors. -/
def WithinSize (pattern : String) : Prop :=
  ∀ r, parse? pattern.toList = some r → r.fits = true ∧ r.anchored.fits = true

theorem MatchesLanguage.congr_iff {pattern : String} {L M : Language Char}
    (h : MatchesLanguage pattern L) : MatchesLanguage pattern M ↔ M = L := by
  constructor
  · intro hM
    obtain ⟨p, hp, hmatches⟩ := h .span
    obtain ⟨q, hq, hmatches'⟩ := hM .span
    cases hp.symm.trans hq
    ext word
    have hword : (String.ofList word).toList = word := String.toList_ofList
    rw [← hword, ← hmatches, ← hmatches']
  · rintro rfl
    exact h

section

variable {siblings : List Sibling}

theorem toList_toPattern_siblings (siblings : List Sibling) :
    (SyntaxTree.toPattern ⟨siblings.flatMap Sibling.nodes⟩).toList =
      Glyph.written ((siblings.flatMap Sibling.signs).map Glyph.sign) := by
  rw [SyntaxTree.toPattern, Node.toList_listToPattern, Sibling.listGlyphs_flatMap]

theorem toPattern_siblings_ne_empty (hsome : siblings ≠ []) :
    SyntaxTree.toPattern ⟨siblings.flatMap Sibling.nodes⟩ ≠ "" := by
  intro hempty
  have hle := Glyph.length_le_written ((siblings.flatMap Sibling.signs).map Glyph.sign)
  rw [← toList_toPattern_siblings, hempty, List.length_map] at hle
  have hnil : siblings.flatMap Sibling.signs = [] := List.length_eq_zero_iff.mp (by simpa using hle)
  obtain ⟨s, hs⟩ := List.exists_mem_of_ne_nil siblings hsome
  have hsigns : s.element.signs = [] :=
    (List.append_eq_nil_iff.mp (List.flatMap_eq_nil_iff.mp hnil s hs)).1
  have htokens := s.element.map_toToken_signs
  rw [hsigns] at htokens
  simp at htokens

/-- The siblings are joined to one alternative without nesting but for the quantifiers. -/
theorem exists_item?_siblings (siblings : List Sibling) :
    ∃ item, item? (SyntaxTree.toPattern ⟨siblings.flatMap Sibling.nodes⟩).toList = some item ∧
      item.depth ≤ 2 ∧ Reads (siblings.map Sibling.written).prod item.regex := by
  let frame : GroupFrame := { items := (siblings.flatMap Sibling.items).reverse }
  refine ⟨frame.branch, ?_, ?_, ?_⟩
  · rw [toList_toPattern_siblings]
    unfold item? ofTokens?
    rw [Glyph.tokens?_signs, Option.bind_some, Sibling.foldlM_step_flatMap]
    simp [GroupFrame.content, frame, Sibling.behind]
  · have hitems : ∀ item ∈ frame.items, item.depth ≤ 1 := by
      intro item hitem
      obtain ⟨s, -, hmem⟩ := List.mem_flatMap.mp (List.mem_reverse.mp hitem)
      exact Sibling.depth_le_of_mem_items hmem
    exact depth_branch_le hitems
  · intro text i j
    rw [matches_branch, List.reverse_reverse]
    exact Sibling.reads_flatMap_items siblings text i j

theorem siblings_matchWritten (hsome : siblings ≠ [])
    (hsize : WithinSize (SyntaxTree.toPattern ⟨siblings.flatMap Sibling.nodes⟩)) :
    MatchesLanguage (SyntaxTree.toPattern ⟨siblings.flatMap Sibling.nodes⟩)
      (siblings.map Sibling.written).prod := by
  obtain ⟨item, hitem, hdepth, hreads⟩ := exists_item?_siblings siblings
  have hlimit : item.depth + 2 ≤ nestLimit := (Nat.add_le_add_right hdepth 2).trans (by decide)
  have hparse := parse?_eq_item? (SyntaxTree.toPattern ⟨siblings.flatMap Sibling.nodes⟩).toList
  rw [hitem, Option.bind_some, if_pos (by omega)] at hparse
  obtain ⟨hfits, hanchored⟩ := hsize _ hparse
  have hshown : endsInComment
      (SyntaxTree.toPattern ⟨siblings.flatMap Sibling.nodes⟩).toList = false := by
    rw [toList_toPattern_siblings]
    exact Glyph.endsInComment_signs _
  intro mode
  obtain ⟨p, hp, hentire⟩ := exists_ofPattern_item (toPattern_siblings_ne_empty hsome) hitem hlimit
    hfits hanchored hshown mode
  refine ⟨p, hp, fun text => ?_⟩
  rw [hentire, hreads, stands_entire]

end

/-- A list of classes and literals, with or without a quantifier behind each, compiles and matches
whole what its siblings match one after the other, where a quantifier repeats the last character in
front of it.  So quantifiers apply to the whole sibling exactly if this makes no difference to the
texts of the list: always if they stand behind single characters only, and never for a literal of
several characters that is alone with its quantifier. -/
theorem quantified_matchesLanguage {siblings : List Sibling} (hsome : siblings ≠ [])
    (hsize : WithinSize (SyntaxTree.toPattern ⟨siblings.flatMap Sibling.nodes⟩)) :
    let pattern := SyntaxTree.toPattern ⟨siblings.flatMap Sibling.nodes⟩
    let whole := (siblings.map Sibling.language).prod
    let written := (siblings.map Sibling.written).prod
    MatchesLanguage pattern written ∧
      (MatchesLanguage pattern whole ↔ whole = written) ∧
      ((∀ s ∈ siblings, s.quantifier.isSome → s.element.front = []) →
        MatchesLanguage pattern whole) ∧
      ∀ s, siblings = [s] →
        (MatchesLanguage pattern whole ↔ (s.quantifier.isSome → s.element.front = [])) := by
  intro pattern whole written
  have hmatches : MatchesLanguage pattern written := siblings_matchWritten hsome hsize
  refine ⟨hmatches, hmatches.congr_iff, fun hsingle => hmatches.congr_iff.mpr ?_, ?_⟩
  · have hmap : siblings.map Sibling.language = siblings.map Sibling.written :=
      List.map_congr_left fun s hs => (Sibling.written_eq (hsingle s hs)).symm
    exact congrArg List.prod hmap
  · intro s hs
    have hlanguages : whole = s.language ∧ written = s.written := by
      simp [whole, written, hs]
    rw [hmatches.congr_iff, hlanguages.1, hlanguages.2]
    constructor
    · intro heq hquantifier
      by_contra hfront
      exact Sibling.written_ne hquantifier hfront heq.symm
    · intro hfront
      exact (Sibling.written_eq hfront).symm

theorem withinSize_of_all {pattern : String}
    (h : ((parse? pattern.toList).all fun r => r.fits && r.anchored.fits) = true) :
    WithinSize pattern := by
  intro r hr
  rw [hr] at h
  simpa using h

/-- Quantifiers behind a class, behind no literal of two letters, and behind a plus sign. -/
theorem quantified_sum_matchesLanguage :
    let siblings : List Sibling :=
      [⟨.digit, some .oneOrMore⟩, ⟨.literal "ab" (by decide), none⟩,
        ⟨.literal "+" (by decide), some .zeroOrMore⟩]
    MatchesLanguage (SyntaxTree.toPattern ⟨siblings.flatMap Sibling.nodes⟩)
      (siblings.map Sibling.language).prod := by
  intro siblings
  have hsize : WithinSize (SyntaxTree.toPattern ⟨siblings.flatMap Sibling.nodes⟩) :=
    withinSize_of_all (by decide)
  refine (quantified_matchesLanguage (List.cons_ne_nil _ _) hsize).2.2.1 ?_
  simp [Element.front]

/-- The plus sign behind `ab` repeats the letter `b`, and not the literal. -/
theorem quantified_literal_not_whole :
    let siblings : List Sibling := [⟨.literal "ab" (by decide), some .oneOrMore⟩]
    let pattern := SyntaxTree.toPattern ⟨siblings.flatMap Sibling.nodes⟩
    siblings ≠ [] ∧ WithinSize pattern ∧
      (∃ p, ofPattern pattern .span = .ok p ∧
        p.matchesEntire "abab" = false ∧ p.matchesEntire "abb" = true) ∧
      ¬ MatchesLanguage pattern (siblings.map Sibling.language).prod := by
  intro siblings pattern
  have hsize : WithinSize pattern := withinSize_of_all (by decide)
  have hmatches : MatchesLanguage pattern (siblings.map Sibling.written).prod :=
    siblings_matchWritten (List.cons_ne_nil _ _) hsize
  have hwritten : (siblings.map Sibling.written).prod =
      {['a']} * Quantifier.oneOrMore.repeats {['b']} := by
    rw [← characters_ofChar 'b']
    exact mul_one _
  refine ⟨List.cons_ne_nil _ _, hsize, ?_, ?_⟩
  · obtain ⟨p, hp, hentire⟩ := hmatches .span
    rw [hwritten] at hentire
    refine ⟨p, hp, ?_, ?_⟩
    · rw [← Bool.not_eq_true, hentire]
      intro hmem
      obtain ⟨v, rfl, w, hw, hvw⟩ := Language.mem_mul.mp hmem
      have hletter : 'a' ∈ w := by
        have hbehind : w = ['b', 'a', 'b'] := List.append_cancel_left hvw
        rw [hbehind]
        decide
      obtain ⟨rounds, rfl, hrounds⟩ := Language.mem_kstar.mp
        (Quantifier.mem_kstar_of_mem_repeats hw)
      obtain ⟨round, hround, hinside⟩ := List.mem_flatten.mp hletter
      obtain rfl : round = ['b'] := hrounds round hround
      exact absurd hinside (by decide)
    · have hfirst : ['a'] ∈ ({['a']} : Language Char) := rfl
      have htwice : ['b'] ++ ['b'] ∈ Quantifier.oneOrMore.repeats {['b']} :=
        Quantifier.oneOrMore.append_self_mem_repeats (Set.mem_singleton _)
      rw [hentire]
      exact Language.append_mem_mul hfirst htwice
  · have hwhole : (siblings.map Sibling.language).prod =
        Sibling.language ⟨.literal "ab" (by decide), some .oneOrMore⟩ := mul_one _
    have hone : (siblings.map Sibling.written).prod =
        Sibling.written ⟨.literal "ab" (by decide), some .oneOrMore⟩ := mul_one _
    rw [hmatches.congr_iff, hwhole, hone]
    exact (Sibling.written_ne rfl (by decide)).symm

end Matcher

end RegexInference
