import RegexInference.Matcher
import RegexInference.Proofs.Regex.Anchoring
import RegexInference.Proofs.Regex.Exploration

/-!
# Matching whole texts

A pattern accounts for a whole text if the text belongs to its language.  This is asked of the
pattern between anchors, which are pasted around its text.  The answer is the right one for every
pattern whose text stays what it is between the anchors; for any other the anchored text is no
pattern at all, and no text counts as matched whole.
-/

namespace RegexInference.Matcher

open Regex

/-- Whether the anchors can be put around a pattern: it does not end in a comment that would hide
the closing one, leaves two levels of nesting, and stays within the size limit. -/
def anchorable (source : String) : Bool :=
  !endsInComment source.toList &&
    (item? source.toList).any fun item =>
      decide (item.depth + 2 ≤ nestLimit) && item.regex.anchored.fits

/-! ## Compiling -/

variable {source : String} {p : Matcher}

theorem entireSource_eq (cs : List Char) : entireSource cs = between cs := by
  unfold entireSource between
  rw [List.append_assoc]
  rfl

theorem programOf_eq_ok {text : List Char} {program : Program}
    (h : programOf text source = .ok program) :
    ∃ r, parse? text = some r ∧ r.fits = true ∧ program = r.toProgram := by
  unfold programOf at h
  cases hparse : parse? text with
  | none =>
      rw [hparse] at h
      cases h
  | some r =>
      rw [hparse] at h
      dsimp only at h
      split_ifs at h with hfits
      cases h
      exact ⟨r, rfl, hfits, rfl⟩

theorem exists_ofPattern {mode : MatchMode} (h : (ofPattern source mode).isOk = true) :
    ∃ p, ofPattern source mode = .ok p := by
  cases hp : ofPattern source mode with
  | error e =>
      rw [hp] at h
      cases h
  | ok p => exact ⟨p, rfl⟩

/-- A pattern that is read and small enough compiles in span mode. -/
theorem exists_ofPattern_span {r : Regex} (hempty : source ≠ "")
    (hr : parse? source.toList = some r) (hfits : r.fits = true) :
    ∃ p, ofPattern source .span = .ok p := by
  have hplain : programOf source.toList source = .ok r.toProgram := by
    unfold programOf
    rw [hr]
    simp [hfits]
  have hisEmpty : source.isEmpty = false := by simpa using hempty
  unfold ofPattern
  rw [hisEmpty, hplain]
  exact ⟨_, rfl⟩

/-- What a matcher in span mode is made of. -/
theorem ofPattern_span (h : ofPattern source .span = .ok p) :
    ∃ r, parse? source.toList = some r ∧ p.program = r.toProgram ∧
      p.entire.get = (programOf (entireSource source.toList) source).toOption := by
  unfold ofPattern at h
  split_ifs at h with hempty
  · cases h
  · cases hplain : programOf source.toList source with
    | error e =>
        rw [hplain] at h
        cases h
    | ok program =>
        rw [hplain] at h
        cases h
        obtain ⟨r, hr, -, rfl⟩ := programOf_eq_ok hplain
        exact ⟨r, hr, rfl, rfl⟩

/-- A pattern that compiles in span mode compiles in classic mode if it does between anchors. -/
theorem ofPattern_classic (h : ofPattern source .span = .ok p) :
    ofPattern source .classic =
      (programOf (entireSource source.toList) source).map fun program =>
        { mode := .classic, program, entire := Thunk.pure (some program) } := by
  unfold ofPattern at h ⊢
  split_ifs at h ⊢ with hempty
  · cases h
  · cases hplain : programOf source.toList source with
    | error e =>
        rw [hplain] at h
        cases h
    | ok plain =>
        cases hentire : programOf (entireSource source.toList) source with
        | error e | ok program => rfl

theorem item?_of_parse? {cs : List Char} {r : Regex} (h : parse? cs = some r) :
    ∃ item, item? cs = some item ∧ item.regex = r := by
  rw [parse?_eq_item?] at h
  obtain ⟨item, hitem, hregex⟩ := Option.bind_eq_some_iff.mp h
  split_ifs at hregex with hdepth
  cases hregex
  exact ⟨item, hitem, rfl⟩

/-- The anchored text has the program of the anchored expression, or none. -/
theorem programOf_entireSource {r : Regex} (hr : parse? source.toList = some r) :
    (anchorable source = true →
      programOf (entireSource source.toList) source = .ok r.anchored.toProgram) ∧
    (anchorable source = false →
      ∃ e, programOf (entireSource source.toList) source = .error e) := by
  obtain ⟨item, hitem, rfl⟩ := item?_of_parse? hr
  have hbetween := parse?_between hitem
  rw [← entireSource_eq] at hbetween
  have hanchorable : anchorable source = true ↔
      (endsInComment source.toList = false ∧ item.depth + 2 ≤ nestLimit) ∧
        item.regex.anchored.fits = true := by
    unfold anchorable
    rw [hitem]
    simp [and_assoc]
  unfold programOf
  constructor
  · intro h
    obtain ⟨hshown, hfits⟩ := hanchorable.mp h
    rw [hbetween, if_pos hshown]
    simp only [hfits, if_true]
  · intro h
    rw [← Bool.not_eq_true, hanchorable] at h
    by_cases hshown : endsInComment source.toList = false ∧ item.depth + 2 ≤ nestLimit
    · have hfits : ¬ item.regex.anchored.fits = true := fun hfits => h ⟨hshown, hfits⟩
      rw [hbetween, if_pos hshown]
      simp only [hfits]
      exact ⟨_, rfl⟩
    · rw [hbetween, if_neg hshown]
      exact ⟨_, rfl⟩

/-- What a matcher in classic mode is made of. -/
theorem ofPattern_classic_eq_ok (h : ofPattern source .classic = .ok p) :
    ∃ r : Regex, parse? source.toList = some r ∧ p.program = r.anchored.toProgram ∧
      p.entire.get = some r.anchored.toProgram := by
  unfold ofPattern at h
  split_ifs at h with hempty
  · cases h
  · cases hplain : programOf source.toList source with
    | error e =>
        rw [hplain] at h
        cases h
    | ok plain =>
        obtain ⟨r, hr, -, -⟩ := programOf_eq_ok hplain
        obtain ⟨hanchored, hnot⟩ := programOf_entireSource hr
        cases hanchorable : anchorable source with
        | true =>
            rw [hplain, hanchored hanchorable] at h
            cases h
            exact ⟨r, hr, rfl, rfl⟩
        | false =>
            obtain ⟨e, he⟩ := hnot hanchorable
            rw [hplain, he] at h
            cases h

/-- In classic mode to accept a text is to match all of it. -/
theorem matchesEntire_of_classic (h : ofPattern source .classic = .ok p) (text : String) :
    p.matchesEntire text = p.accepts text := by
  obtain ⟨r, -, hprogram, hentire⟩ := ofPattern_classic_eq_ok h
  simp [matchesEntire, accepts, hprogram, hentire]

/-! ## Whole texts -/

/-- Either the anchors can be put around a pattern and whole texts are those of its language, or no
text counts as whole. -/
theorem matchesEntire_eq_true (h : ofPattern source .span = .ok p) {r : Regex}
    (hr : parse? source.toList = some r) (text : String) :
    p.matchesEntire text = true ↔
      anchorable source = true ∧
        r.Matches text.toList.toArray 0 text.toList.toArray.size := by
  obtain ⟨r', hr', -, hentire⟩ := ofPattern_span h
  obtain ⟨hanchored, hnot⟩ := programOf_entireSource hr
  unfold matchesEntire
  rw [hentire]
  cases hanchorable : anchorable source with
  | true =>
      rw [hanchored hanchorable, and_iff_right rfl]
      exact accepts_anchored_iff
  | false =>
      obtain ⟨e, he⟩ := hnot hanchorable
      rw [he]
      simp [Except.toOption]

/-- A text is accepted in span mode if the expression matches some part of it. -/
theorem accepts_eq_true (h : ofPattern source .span = .ok p) {r : Regex}
    (hr : parse? source.toList = some r) (text : String) :
    p.accepts text = true ↔
      ∃ i j, i ≤ text.toList.toArray.size ∧ r.Matches text.toList.toArray i j := by
  obtain ⟨r', hr', hprogram, -⟩ := ofPattern_span h
  obtain rfl : r = r' := Option.some_inj.mp (hr.symm.trans hr')
  unfold accepts
  rw [hprogram]
  exact accepts_iff

theorem accepts_of_matchesEntire (h : ofPattern source .span = .ok p) {text : String}
    (hentire : p.matchesEntire text = true) : p.accepts text = true := by
  obtain ⟨r, hr, -, -⟩ := ofPattern_span h
  obtain ⟨-, hmatches⟩ := (matchesEntire_eq_true h hr text).mp hentire
  exact (accepts_eq_true h hr text).mpr ⟨_, _, Nat.zero_le _, hmatches⟩

/-- What matching whole texts shall mean for a pattern that compiled in span mode. -/
structure WholeTexts (source : String) (p : Matcher) (r : Regex) : Prop where
  /-- The pattern compiles in classic mode as well, and accepts there what is matched whole. -/
  classic : ∃ q, ofPattern source .classic = .ok q ∧
    ∀ text, q.accepts text = p.matchesEntire text
  /-- A text is matched whole if it belongs to the language. -/
  language : ∀ text, p.matchesEntire text = true ↔
    r.Matches text.toList.toArray 0 text.toList.toArray.size
  /-- This is so in particular if the first match that is found covers the text. -/
  covered : ∀ text, p.program.find? text.toList.toArray 0 =
    some (0, text.toList.toArray.size) → p.matchesEntire text = true

theorem WholeTexts.of_anchorable (h : ofPattern source .span = .ok p) {r : Regex}
    (hr : parse? source.toList = some r) (hanchorable : anchorable source = true) :
    WholeTexts source p r where
  classic := by
    refine ⟨⟨.classic, r.anchored.toProgram, Thunk.pure (some r.anchored.toProgram)⟩, ?_, ?_⟩
    · rw [ofPattern_classic h, (programOf_entireSource hr).1 hanchorable]
      rfl
    · intro text
      rw [Bool.eq_iff_iff, matchesEntire_eq_true h hr, and_iff_right hanchorable]
      exact accepts_anchored_iff
  language := by
    intro text
    rw [matchesEntire_eq_true h hr, and_iff_right hanchorable]
  covered := by
    intro text hfind
    obtain ⟨r', hr', hprogram, -⟩ := ofPattern_span h
    obtain rfl : r = r' := Option.some_inj.mp (hr.symm.trans hr')
    rw [hprogram] at hfind
    exact (matchesEntire_eq_true h hr text).mpr ⟨hanchorable, (find?_eq_some hfind).2⟩

/-- A pattern that is read and leaves room for the anchors compiles in both modes, and whole texts
are those of its language. -/
theorem exists_ofPattern_item {item : Item} (hempty : source ≠ "")
    (hitem : item? source.toList = some item) (hdepth : item.depth + 2 ≤ nestLimit)
    (hfits : item.regex.fits = true) (hanchored : item.regex.anchored.fits = true)
    (hshown : endsInComment source.toList = false) (mode : MatchMode) :
    ∃ p, ofPattern source mode = .ok p ∧ ∀ text, p.matchesEntire text = true ↔
      item.regex.Matches text.toList.toArray 0 text.toList.toArray.size := by
  have hparse : parse? source.toList = some item.regex := by
    rw [parse?_eq_item?, hitem, Option.bind_some, if_pos (by omega)]
  have hanchorable : anchorable source = true := by
    unfold anchorable
    rw [hshown, hitem]
    simp [hdepth, hanchored]
  obtain ⟨p, hp⟩ := exists_ofPattern_span hempty hparse hfits
  have hwhole := WholeTexts.of_anchorable hp hparse hanchorable
  cases mode with
  | span => exact ⟨p, hp, hwhole.language⟩
  | classic =>
      obtain ⟨q, hq, hsame⟩ := hwhole.classic
      refine ⟨q, hq, fun text => ?_⟩
      rw [matchesEntire_of_classic hq, hsame, hwhole.language]

/-- Without a hash there are no comments, and only the limits can keep the anchors away. -/
theorem WholeTexts.of_not_mem_hash (h : ofPattern source .span = .ok p) {item : Item}
    (hitem : item? source.toList = some item) (hhash : '#' ∉ source.toList)
    (hdepth : item.depth + 2 ≤ nestLimit) (hfits : item.regex.anchored.fits = true) :
    WholeTexts source p item.regex := by
  obtain ⟨tokens, htokens, -⟩ := Option.bind_eq_some_iff.mp hitem
  have hshown : endsInComment source.toList = false := by
    rw [← Bool.not_eq_true]
    intro hcomment
    obtain ⟨comment, hsuffix, -⟩ := mayEndInComment htokens hcomment
    exact hhash (hsuffix.subset List.mem_cons_self)
  have hparse : parse? source.toList = some item.regex := by
    rw [parse?_eq_item?, hitem, Option.bind_some, if_pos (by omega)]
  apply of_anchorable h hparse
  unfold anchorable
  rw [hitem, hshown]
  simp [hdepth, hfits]

/-- Whole texts are those of the language exactly if the anchors can be put around the pattern.  For
any other pattern classic mode has no matcher, and span mode finds no text to be whole. -/
theorem wholeTexts_iff_anchorable (source : String) (p : Matcher)
    (h : ofPattern source .span = .ok p) :
    ∃ r, parse? source.toList = some r ∧
      (WholeTexts source p r ↔ anchorable source = true) ∧
      (anchorable source = false →
        (∃ e, ofPattern source .classic = .error e) ∧
          ∀ text, p.matchesEntire text = false) := by
  obtain ⟨r, hr, -, -⟩ := ofPattern_span h
  have hrefused : anchorable source = false → ∃ e, ofPattern source .classic = .error e := by
    intro hanchorable
    obtain ⟨e, he⟩ := (programOf_entireSource hr).2 hanchorable
    rw [ofPattern_classic h, he]
    exact ⟨e, rfl⟩
  refine ⟨r, hr, ⟨fun hwhole => ?_, WholeTexts.of_anchorable h hr⟩, fun hanchorable => ?_⟩
  · by_contra hanchorable
    obtain ⟨e, he⟩ := hrefused (by simpa using hanchorable)
    obtain ⟨q, hq, -⟩ := hwhole.classic
    rw [he] at hq
    cases hq
  · refine ⟨hrefused hanchorable, fun text => ?_⟩
    rw [← Bool.not_eq_true, matchesEntire_eq_true h hr, hanchorable]
    simp

/-- The first of these alternatives is preferred and stops short, and yet both texts are whole. -/
theorem wholeTexts_alternatives :
    ∃ p, ofPattern "a|ab" .span = .ok p ∧
      ∃ r, parse? "a|ab".toList = some r ∧ WholeTexts "a|ab" p r := by
  obtain ⟨p, hp⟩ : ∃ p, ofPattern "a|ab" .span = .ok p := exists_ofPattern (by rfl)
  obtain ⟨r, hr, hwhole, -⟩ := wholeTexts_iff_anchorable "a|ab" p hp
  exact ⟨p, hp, r, hr, hwhole.mpr (by rfl)⟩

/-- A comment hides the closing anchor: the pattern compiles and its language holds the text, and
yet the text does not count as whole, and classic mode refuses the pattern. -/
theorem comment_hides_anchor :
    ∃ p r, ofPattern "(?x)a #" .span = .ok p ∧ parse? "(?x)a #".toList = some r ∧
      r.Matches "a".toList.toArray 0 1 ∧ p.matchesEntire "a" = false ∧
      ∃ e, ofPattern "(?x)a #" .classic = .error e := by
  obtain ⟨set, unit, hparse, hset⟩ : ∃ set unit,
      parse? "(?x)a #".toList = some (.chars set unit) ∧ set.has 'a' = true :=
    ⟨_, _, rfl, by rfl⟩
  obtain ⟨p, hp⟩ : ∃ p, ofPattern "(?x)a #" .span = .ok p := exists_ofPattern (by rfl)
  have hanchorable : anchorable "(?x)a #" = false := by rfl
  refine ⟨p, _, hp, hparse, ⟨⟨'a', rfl, hset⟩, rfl⟩, ?_, ?_⟩
  · rw [← Bool.not_eq_true, matchesEntire_eq_true hp hparse, hanchorable]
    simp
  · obtain ⟨e, he⟩ := (programOf_entireSource hparse).2 hanchorable
    rw [ofPattern_classic hp, he]
    exact ⟨_, rfl⟩

end RegexInference.Matcher
