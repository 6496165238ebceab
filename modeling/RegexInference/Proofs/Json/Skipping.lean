import RegexInference.Proofs.Json.Grammar

/-!
# Values that are passed over

Members that are not fields are passed over with a stack of the arrays and objects that are open, so
there is no limit to how deep they are.  Every well-formed value is passed over up to its end, in no
more than two steps for each of its characters.
-/

namespace RegexInference.Json

/-! ## Strings and numbers -/

theorem skipEscape_letter {e : Char × Char} (h : e ∈ letterEscapes) (cs : List Char) :
    skipEscape (e.1 :: cs) = .ok cs := by
  obtain ⟨hcode, hescape⟩ := simpleEscape?_of_mem e h
  rw [skipEscape, hescape]
  · rfl
  · exact hcode

theorem skipString_piece {piece : List Char} (h : IsStringPiece piece) (f : Char)
    (fuel cs : List Char) : skipString (f :: fuel) (piece ++ cs) = skipString fuel cs := by
  cases h with
  | plain hplain =>
      obtain ⟨hquote, hbackslash, hcontrol⟩ := hplain
      rw [List.singleton_append, skipString, if_neg hquote, if_neg hbackslash,
        if_neg (Nat.not_lt.mpr hcontrol)]
  | @letter e hmem =>
      change skipString (f :: fuel) ('\\' :: e.1 :: cs) = _
      rw [skipString, if_neg (by decide), if_pos rfl, skipEscape_letter hmem]
      rfl
  | @code code n hcode =>
      change skipString (f :: fuel) ('\\' :: 'u' :: (code ++ cs)) = _
      rw [skipString, if_neg (by decide), if_pos rfl, skipEscape]
      simp only [scanHex_code hcode, bind, Except.bind]
      rfl

theorem IsStringPiece.length_pos {piece : List Char} (h : IsStringPiece piece) :
    0 < piece.length := by
  cases h <;> exact Nat.zero_lt_succ _

theorem skipString_body {body : List Char} (h : IsStringBody body) {fuel : List Char}
    (hfuel : body.length < fuel.length) (rest : List Char) :
    skipString fuel (body ++ '"' :: rest) = .ok rest := by
  induction h generalizing fuel with
  | nil =>
      obtain ⟨f, fuel, rfl⟩ := List.exists_cons_of_length_pos hfuel
      rfl
  | cons hpiece _ ih =>
      obtain ⟨f, fuel, rfl⟩ := List.exists_cons_of_length_pos (Nat.zero_lt_of_lt hfuel)
      have hpos := hpiece.length_pos
      rw [List.append_assoc, skipString_piece hpiece]
      apply ih
      rw [List.length_append, List.length_cons] at hfuel
      omega

/-- A string is passed over with itself as fuel. -/
theorem skipString_quoted {body : List Char} (h : IsStringBody body) (rest : List Char) :
    skipString (body ++ '"' :: rest) (body ++ '"' :: rest) = .ok rest := by
  apply skipString_body h
  rw [List.length_append, List.length_cons]
  omega

theorem skipNumber_magnitude {cs : List Char} (h : IsMagnitude cs) {rest : List Char}
    (hrest : EndsNumber rest) : skipNumber (cs ++ rest) = .ok rest := by
  obtain ⟨hformed, hspelled⟩ := h
  unfold skipNumber
  rw [NumberText.scanNumberText_spelled hformed hspelled hrest]

theorem IsMagnitude.exists_digit {cs : List Char} (h : IsMagnitude cs) :
    ∃ d ds, cs = d :: ds ∧ d.isDigit = true := by
  obtain ⟨hformed, hspelled⟩ := h
  obtain ⟨d, ds, hwhole⟩ := List.exists_cons_of_ne_nil hformed.whole.1
  exact ⟨d, _, by rw [hwhole, List.cons_append], hformed.whole.2 d (hwhole ▸ List.mem_cons_self)⟩

/-! ## Beginnings -/

/-- A digit is neither a blank nor the beginning of anything but a number. -/
theorem isDigit_begins {d : Char} (hd : d.isDigit = true) :
    isBlank d = false ∧ ∀ c ∈ ['n', 't', 'f', '"', '[', '{', '-', ']'], d ≠ c := by
  refine ⟨?_, ?_⟩
  · rw [← Bool.not_eq_true, isBlank_iff]
    rintro (rfl | rfl | rfl | rfl) <;> exact absurd hd (by decide)
  · simp only [List.forall_mem_cons]
    refine ⟨?_, ?_, ?_, ?_, ?_, ?_, ?_, ?_, List.forall_mem_nil _⟩ <;> rintro rfl <;>
      exact absurd hd (by decide)

/-- A value begins with a character that neither is passed over nor ends an array. -/
theorem IsValue.begins {value : List Char} (h : IsValue value) :
    ∃ c cs, value = c :: cs ∧ isBlank c = false ∧ c ≠ ']' := by
  cases h with
  | @word word hword =>
      simp only [List.mem_cons, List.not_mem_nil, or_false] at hword
      rcases hword with rfl | rfl | rfl
      · exact ⟨'n', "ull".toList, rfl, by decide, by decide⟩
      · exact ⟨'t', "rue".toList, rfl, by decide, by decide⟩
      · exact ⟨'f', "alse".toList, rfl, by decide, by decide⟩
  | positive hcs =>
      obtain ⟨d, ds, rfl, hd⟩ := hcs.exists_digit
      obtain ⟨hblank, hother⟩ := isDigit_begins hd
      exact ⟨d, ds, rfl, hblank, hother _ (by decide)⟩
  | @negative cs _ => exact ⟨'-', cs, rfl, by decide, by decide⟩
  | @string body _ => exact ⟨'"', body ++ ['"'], rfl, by decide, by decide⟩
  | array _ _ => exact ⟨'[', _, rfl, by decide, by decide⟩
  | object _ _ _ => exact ⟨'{', _, rfl, by decide, by decide⟩

/-! ## Single steps -/

namespace Reader

/-- The state in which a part of an array or object begins. -/
def partState (isObject : Bool) : SkipState := if isObject then .key else .value

/-- Blanks are not seen, except behind the whole value. -/
theorem skipFrom_blanks {fuel : ℕ} (state : SkipState) {stack : List Bool}
    (h : state ≠ .behind ∨ stack ≠ []) {gap : List Char} (hgap : Blanks gap) (cs : List Char) :
    skipFrom fuel state stack (gap ++ cs) = skipFrom fuel state stack cs := by
  cases fuel with
  | zero => rfl
  | succ fuel =>
      cases state with
      | behind =>
          obtain ⟨b, stack, rfl⟩ := List.exists_cons_of_ne_nil (h.resolve_left (· rfl))
          rw [skipFrom, skipFrom, skipBlanks_append hgap]
      | opened | key | value => rw [skipFrom, skipFrom, skipBlanks_append hgap]

section

variable (fuel : ℕ) (b : Bool) (stack : List Bool) (cs : List Char)

theorem skipFrom_comma :
    skipFrom (fuel + 1) .behind (b :: stack) (',' :: cs) =
      skipFrom fuel (partState b) (b :: stack) cs := rfl

theorem skipFrom_close :
    skipFrom (fuel + 1) .behind (b :: stack) (closer b :: cs) = skipFrom fuel .behind stack cs := by
  cases b <;> rfl

theorem skipFrom_open :
    skipFrom (fuel + 1) .value stack (opener b :: cs) = skipFrom fuel .opened (b :: stack) cs := by
  cases b <;> rfl

theorem skipFrom_empty :
    skipFrom (fuel + 1) .opened (b :: stack) (closer b :: cs) = skipFrom fuel .behind stack cs := by
  cases b <;> rfl

/-- What does not begin with the closing bracket is the first part. -/
theorem skipFrom_first {c : Char} (hblank : isBlank c = false) (hc : c ≠ closer b) :
    skipFrom (fuel + 1) .opened (b :: stack) (c :: cs) =
      skipFrom fuel (partState b) (b :: stack) (c :: cs) := by
  rw [skipFrom, skipBlanks_cons hblank]
  cases b <;> exact if_neg hc

end

/-! ## Parts and values -/

/-- A value is passed over in few steps, whatever stands behind it. -/
def Passes (value : List Char) : Prop :=
  ∃ steps, steps + 1 ≤ 2 * value.length ∧ ∀ fuel stack rest, Delimited rest →
    skipFrom (fuel + steps) .value stack (value ++ rest) = skipFrom fuel .behind stack rest

/-- A part of an array or object is passed over together with the blanks around it. -/
structure PassesPart (isObject : Bool) (part : List Char) : Prop where
  begins : ∃ gap c cs, part = gap ++ c :: cs ∧ Blanks gap ∧ isBlank c = false ∧ c ≠ closer isObject
  steps : ∃ steps, steps + 1 ≤ 2 * part.length ∧ ∀ fuel stack rest, Delimited rest →
    skipFrom (fuel + steps) (partState isObject) (isObject :: stack) (part ++ rest) =
      skipFrom fuel .behind (isObject :: stack) rest

/-- The parts behind the first one are passed over, and the bracket behind them. -/
theorem exists_steps_behind {b : Bool} {parts : List (List Char)}
    (hparts : ∀ part ∈ parts, PassesPart b part) {gap : List Char} (hgap : Blanks gap) :
    ∃ steps, steps ≤ 2 * (parts.flatMap fun part => ',' :: part).length + 1 ∧
      ∀ fuel stack rest, skipFrom (fuel + steps) .behind (b :: stack)
        (parts.flatMap (fun part => ',' :: part) ++ (gap ++ closer b :: rest)) =
          skipFrom fuel .behind stack rest := by
  induction parts with
  | nil =>
      refine ⟨1, Nat.le_refl 1, fun fuel stack rest => ?_⟩
      rw [List.flatMap_nil, List.nil_append,
        skipFrom_blanks .behind (.inr (List.cons_ne_nil b stack)) hgap, skipFrom_close]
  | cons part parts ih =>
      obtain ⟨hpart, hparts⟩ := List.forall_mem_cons.mp hparts
      obtain ⟨more, hmore, hrest⟩ := ih hparts
      obtain ⟨steps, hsteps, hpass⟩ := hpart.steps
      refine ⟨more + steps + 1, ?_, fun fuel stack rest => ?_⟩
      · rw [List.flatMap_cons, List.length_append, List.length_cons]
        omega
      · rw [List.flatMap_cons, List.append_assoc, List.cons_append, ← Nat.add_assoc,
          skipFrom_comma, ← Nat.add_assoc, hpass _ _ _ (delimited_parts b parts hgap rest), hrest]

/-- An array or object is passed over if its parts are. -/
theorem passes_enclosed {b : Bool} {parts : List (List Char)}
    (hparts : ∀ part ∈ parts, PassesPart b part) {gap : List Char} (hgap : Blanks gap) :
    Passes (enclosed b parts gap) := by
  cases parts with
  | nil =>
      refine ⟨2, by simp [enclosed]; omega, fun fuel stack rest _ => ?_⟩
      have htext : enclosed b [] gap ++ rest = opener b :: (gap ++ closer b :: rest) := by
        simp [enclosed, separated]
      rw [htext, ← Nat.add_assoc fuel 1 1, skipFrom_open,
        skipFrom_blanks .opened (.inl (by simp)) hgap, skipFrom_empty]
  | cons part parts =>
      obtain ⟨hpart, hparts⟩ := List.forall_mem_cons.mp hparts
      obtain ⟨more, hmore, hrest⟩ := exists_steps_behind hparts hgap
      obtain ⟨steps, hsteps, hpass⟩ := hpart.steps
      obtain ⟨first, c, cs, rfl, hfirst, hblank, hc⟩ := hpart.begins
      refine ⟨more + steps + 1 + 1, ?_, fun fuel stack rest _ => ?_⟩
      · simp only [enclosed, separated, List.length_cons, List.length_append] at hsteps ⊢
        omega
      · let others := parts.flatMap (fun part => ',' :: part) ++ (gap ++ closer b :: rest)
        have htext : enclosed b ((first ++ c :: cs) :: parts) gap ++ rest =
            opener b :: (first ++ c :: (cs ++ others)) := by
          simp [enclosed, separated, others]
        have hothers : first ++ c :: (cs ++ others) = first ++ c :: cs ++ others := by simp
        rw [htext, ← Nat.add_assoc, skipFrom_open, ← Nat.add_assoc,
          skipFrom_blanks .opened (.inl (by simp)) hfirst, skipFrom_first _ _ _ _ hblank hc,
          ← skipFrom_blanks (partState b) (.inr (List.cons_ne_nil b stack)) hfirst, hothers,
          ← Nat.add_assoc, hpass _ _ _ (delimited_parts b parts hgap rest)]
        exact hrest fuel stack rest

theorem passesPart_item {i : Spaced} (hvalue : IsValue i.value) (hpasses : Passes i.value) :
    PassesPart false i.text := by
  constructor
  · obtain ⟨c, cs, hbegin, hblank, hc⟩ := hvalue.begins
    exact ⟨i.lead, c, cs ++ i.trail, by simp [Spaced.text, hbegin], i.blanks_lead, hblank, hc⟩
  · obtain ⟨steps, hsteps, hpass⟩ := hpasses
    refine ⟨steps, ?_, fun fuel stack rest hrest => ?_⟩
    · rw [Spaced.text, List.length_append, List.length_append]
      omega
    · have htext : i.text ++ rest = i.lead ++ (i.value ++ (i.trail ++ rest)) := by
        simp [Spaced.text]
      rw [htext, ← skipFrom_blanks .behind (.inr (List.cons_ne_nil false stack)) i.blanks_trail]
      exact (skipFrom_blanks .value (.inl (by simp)) i.blanks_lead _).trans
        (hpass _ _ _ (delimited_blanks_append i.blanks_trail hrest))

theorem skipFrom_key (fuel : ℕ) (stack : List Bool) {key gap : List Char}
    (hkey : IsStringBody key) (hgap : Blanks gap) (rest : List Char) :
    skipFrom (fuel + 1) .key stack (quoted key ++ (gap ++ ':' :: rest)) =
      skipFrom fuel .value stack rest := by
  have hbehind := skipString_quoted hkey (gap ++ ':' :: rest)
  rw [quoted_append]
  change (do
    let rest ← skipString (key ++ '"' :: (gap ++ ':' :: rest)) (key ++ '"' :: (gap ++ ':' :: rest))
    skipFrom fuel .value stack (← readColon rest)) = _
  simp only [hbehind, readColon_blanks hgap, bind, Except.bind]

theorem passesPart_member {m : Member} (hkey : IsStringBody m.key)
    (hpasses : Passes m.content.value) : PassesPart true m.text := by
  constructor
  · refine ⟨m.lead, '"', m.key ++ '"' :: (m.gap ++ ':' :: m.content.text), ?_, m.blanks_lead,
      by decide, by decide⟩
    simp [Member.text, quoted]
  · obtain ⟨steps, hsteps, hpass⟩ := hpasses
    refine ⟨steps + 1, ?_, fun fuel stack rest hrest => ?_⟩
    · simp only [Member.text, Spaced.text, quoted, List.length_append, List.length_cons]
      omega
    · have htext : m.text ++ rest = m.lead ++ (quoted m.key ++ (m.gap ++ ':' ::
          (m.content.lead ++ (m.content.value ++ (m.content.trail ++ rest))))) := by
        simp [Member.text, Spaced.text]
      rw [htext, ← Nat.add_assoc,
        ← skipFrom_blanks .behind (.inr (List.cons_ne_nil true stack)) m.content.blanks_trail]
      change skipFrom (fuel + steps + 1) .key _ _ = _
      rw [skipFrom_blanks .key (.inl (by simp)) m.blanks_lead, skipFrom_key _ _ hkey m.blanks_gap,
        skipFrom_blanks .value (.inl (by simp)) m.content.blanks_lead]
      exact hpass _ _ _ (delimited_blanks_append m.content.blanks_trail hrest)

/-- A value that one step passes over is passed over. -/
theorem passes_of_step {value : List Char} (hvalue : value ≠ []) (h : ∀ fuel stack rest,
    Delimited rest → skipFrom (fuel + 1) .value stack (value ++ rest) =
      skipFrom fuel .behind stack rest) : Passes value := by
  have hpos := List.length_pos_iff.mpr hvalue
  exact ⟨1, by omega, h⟩

theorem passes_word {word : String} (h : word ∈ ["null", "true", "false"]) :
    Passes word.toList := by
  simp only [List.mem_cons, List.not_mem_nil, or_false] at h
  rcases h with rfl | rfl | rfl
  · refine passes_of_step (by decide) fun fuel stack rest _ => ?_
    exact congrArg (· >>= skipFrom fuel .behind stack) (scanWord_append "ull".toList rest)
  · refine passes_of_step (by decide) fun fuel stack rest _ => ?_
    exact congrArg (· >>= skipFrom fuel .behind stack) (scanWord_append "rue".toList rest)
  · refine passes_of_step (by decide) fun fuel stack rest _ => ?_
    exact congrArg (· >>= skipFrom fuel .behind stack) (scanWord_append "alse".toList rest)

theorem passes_string {body : List Char} (h : IsStringBody body) : Passes (quoted body) := by
  refine passes_of_step (List.cons_ne_nil _ _) fun fuel stack rest _ => ?_
  rw [quoted_append]
  exact congrArg (· >>= skipFrom fuel .behind stack) (skipString_quoted h rest)

theorem passes_negative {cs : List Char} (h : IsMagnitude cs) : Passes ('-' :: cs) := by
  refine passes_of_step (List.cons_ne_nil _ _) fun fuel stack rest hrest => ?_
  exact congrArg (· >>= skipFrom fuel .behind stack)
    (skipNumber_magnitude h (endsNumber_of_delimited hrest))

theorem passes_positive {cs : List Char} (h : IsMagnitude cs) : Passes cs := by
  obtain ⟨d, ds, rfl, hd⟩ := h.exists_digit
  refine passes_of_step (List.cons_ne_nil _ _) fun fuel stack rest hrest => ?_
  obtain ⟨hblank, hother⟩ := isDigit_begins hd
  simp only [List.forall_mem_cons] at hother
  obtain ⟨hn, ht, hf, hquote, hbracket, hbrace, hminus, -⟩ := hother
  have hnumber := skipNumber_magnitude h (endsNumber_of_delimited hrest)
  rw [List.cons_append] at hnumber ⊢
  rw [skipFrom, skipBlanks_cons hblank]
  simp only [hd, if_true, hnumber, bind, Except.bind]

/-- Every well-formed value is passed over. -/
theorem passes_of_isValue {value : List Char} (h : IsValue value) : Passes value := by
  induction h with
  | word hword => exact passes_word hword
  | positive hcs => exact passes_positive hcs
  | negative hcs => exact passes_negative hcs
  | string hbody => exact passes_string hbody
  | array hgap hitems ih =>
      refine passes_enclosed (fun part hpart => ?_) hgap
      obtain ⟨i, hi, rfl⟩ := List.mem_map.mp hpart
      exact passesPart_item (hitems i hi) (ih i hi)
  | object hgap hkeys hvalues ih =>
      refine passes_enclosed (fun part hpart => ?_) hgap
      obtain ⟨m, hm, rfl⟩ := List.mem_map.mp hpart
      exact passesPart_member (hkeys m hm) (ih m hm)

/-- However deep a value is, it is passed over up to its end. -/
theorem skip_takes {value : List Char} (h : IsValue value) (depth : ℕ) {gap : List Char}
    (hgap : Blanks gap) : skip.Takes depth (gap ++ value) (.ok ()) := by
  intro rest hrest
  obtain ⟨steps, hsteps, hpass⟩ := passes_of_isValue h
  obtain ⟨fuel, hfuel⟩ : ∃ fuel, 3 * (gap ++ value ++ rest).length + 3 = fuel + 1 + steps := by
    refine ⟨3 * (gap ++ value ++ rest).length + 2 - steps, ?_⟩
    simp only [List.length_append]
    omega
  unfold skip
  rw [hfuel, List.append_assoc, skipFrom_blanks .value (.inl (by simp)) hgap, hpass _ _ _ hrest]
  rfl

end Reader

end RegexInference.Json
