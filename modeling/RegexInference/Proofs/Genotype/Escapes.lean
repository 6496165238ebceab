import Mathlib.Data.List.Induction
import RegexInference.Genotype.Sequence

/-!
# Escapes end where symbols end

A pattern is read from the left, and a backslash that is not escaped itself escapes the character
behind it.  A token that would leave an escape open is literal text, and its backslashes are escaped
when it is written.  So no symbol reaches into the next one, wherever a candidate is divided.
-/

namespace RegexInference

/-! ## Scanning from the left -/

/-- Whether an escape is open behind a character. -/
def opensEscape (isOpen : Bool) (c : Char) : Bool := !isOpen && c == '\\'

/-- Whether an escape is open behind some characters. -/
def leavesEscapeOpen (cs : List Char) : Bool := cs.foldl opensEscape false

/-- Whether the character at a place is escaped by those in front of it. -/
def isEscaped (cs : List Char) (i : ℕ) : Bool := leavesEscapeOpen (cs.take i)

/-- An escape is open exactly if the backslashes at the end are odd in number. -/
theorem leavesEscapeOpen_eq (cs : List Char) :
    leavesEscapeOpen cs = Symbol.endsInOpenEscape cs := by
  induction cs using List.reverseRecOn with
  | nil => rfl
  | append_singleton cs c ih =>
      unfold leavesEscapeOpen Symbol.endsInOpenEscape at ih ⊢
      rw [List.foldl_append, List.foldl_cons, List.foldl_nil, ih, List.reverse_append,
        List.reverse_singleton, List.singleton_append, List.takeWhile_cons]
      by_cases hc : c = '\\'
      · -- One more backslash turns odd into even and even into odd.
        rw [if_pos (beq_iff_eq.mpr hc), List.length_cons, opensEscape, hc, beq_self_eq_true,
          Bool.and_true]
        grind
      · simp [opensEscape, hc]

/-- Behind what leaves no escape open the scan is as at the start. -/
theorem leavesEscapeOpen_append {front : List Char} (hfront : leavesEscapeOpen front = false)
    (back : List Char) : leavesEscapeOpen (front ++ back) = leavesEscapeOpen back := by
  unfold leavesEscapeOpen at hfront ⊢
  rw [List.foldl_append, hfront]

theorem leavesEscapeOpen_flatMap {α : Type} {pieces : List α} {f : α → List Char}
    (h : ∀ a ∈ pieces, leavesEscapeOpen (f a) = false) :
    leavesEscapeOpen (pieces.flatMap f) = false := by
  induction pieces with
  | nil => rfl
  | cons a pieces ih =>
      obtain ⟨ha, hpieces⟩ := List.forall_mem_cons.mp h
      rw [List.flatMap_cons, leavesEscapeOpen_append ha]
      exact ih hpieces

theorem isEscaped_append {front : List Char} (hfront : leavesEscapeOpen front = false)
    (back : List Char) (i : ℕ) :
    isEscaped (front ++ back) (front.length + i) = isEscaped back i := by
  unfold isEscaped
  rw [List.take_length_add_append, leavesEscapeOpen_append hfront]

/-! ## Symbols -/

/-- A character that is a backslash is written with another one in front of it. -/
theorem leavesEscapeOpen_escapeChar (c : Char) : leavesEscapeOpen (Regex.escapeChar c) = false := by
  unfold Regex.escapeChar
  split_ifs with hmeta
  · rfl
  · have hc : c ≠ '\\' := by
      rintro rfl
      exact hmeta rfl
    simp [leavesEscapeOpen, opensEscape, hc]

namespace Symbol

theorem endsInOpenEscape_of_isSpecialToken {token : List Char} (h : isSpecialToken token = true) :
    endsInOpenEscape token = false := by
  unfold isSpecialToken at h
  split at h
  · next c =>
      have hc : c ≠ '\\' := by
        rintro rfl
        exact absurd h (by decide)
      simp [endsInOpenEscape, hc]
  · simpa using h
  · cases h

/-- A token that was classified leaves no escape open, whatever it is. -/
theorem leavesEscapeOpen_toPattern (token : String) :
    leavesEscapeOpen (ofToken token).toPattern.toList = false := by
  unfold ofToken
  split_ifs with hspecial
  · rw [leavesEscapeOpen_eq]
    exact endsInOpenEscape_of_isSpecialToken hspecial
  · change leavesEscapeOpen (Regex.escaped token).toList = false
    rw [Regex.escaped, String.toList_ofList]
    exact leavesEscapeOpen_flatMap fun c _ => leavesEscapeOpen_escapeChar c

end Symbol

namespace Sequence

theorem toList_toPattern (symbols : List Symbol) :
    (toPattern ⟨symbols⟩).toList = symbols.flatMap fun s => s.toPattern.toList := by
  rw [toPattern, String.toList_join, List.flatMap_map]

theorem toPattern_append (front back : List Symbol) :
    toPattern ⟨front ++ back⟩ = toPattern ⟨front⟩ ++ toPattern ⟨back⟩ := by
  rw [← String.toList_inj, String.toList_append]
  simp only [toList_toPattern, List.flatMap_append]

/-- What holds of the pattern of a candidate that is divided behind some of its symbols. -/
structure DividesAt (x : Sequence) (n : ℕ) : Prop where
  /-- It is the pattern of the front and that of the back. -/
  joined : x.toPattern = toPattern ⟨x.symbols.take n⟩ ++ toPattern ⟨x.symbols.drop n⟩
  /-- No escape is open between them. -/
  closed : isEscaped x.toPattern.toList (toPattern ⟨x.symbols.take n⟩).length = false
  /-- The characters of the back are escaped as they are in the back alone. -/
  behind : ∀ i, isEscaped x.toPattern.toList ((toPattern ⟨x.symbols.take n⟩).length + i) =
    isEscaped (toPattern ⟨x.symbols.drop n⟩).toList i

/-- No escape reaches from one symbol into the next, wherever a candidate made of tokens is
divided. -/
theorem toPattern_divides (tokens : List String) (n : ℕ) : (ofTokens tokens).DividesAt n := by
  let front := toPattern ⟨(ofTokens tokens).symbols.take n⟩
  let back := toPattern ⟨(ofTokens tokens).symbols.drop n⟩
  have hjoined : (ofTokens tokens).toPattern = front ++ back := by
    rw [← toPattern_append, List.take_append_drop]
  have hfront : leavesEscapeOpen front.toList = false := by
    rw [toList_toPattern]
    apply leavesEscapeOpen_flatMap
    intro s hs
    obtain ⟨token, -, rfl⟩ := List.mem_map.mp (List.mem_of_mem_take hs)
    exact Symbol.leavesEscapeOpen_toPattern token
  have hbehind : ∀ i, isEscaped (ofTokens tokens).toPattern.toList (front.length + i) =
      isEscaped back.toList i := by
    intro i
    rw [hjoined, String.toList_append, ← String.length_toList]
    exact isEscaped_append hfront back.toList i
  exact ⟨hjoined, hbehind 0, hbehind⟩

/-- A token that ends in an open escape is literal, so the letter behind it stays a letter. -/
example : (ofTokens ["\\d\\", "b"]).toPattern = "\\\\d\\\\b" := rfl

end Sequence

end RegexInference
