import RegexInference.Unicode.CodeSet

/-!
# Sets of characters

What a pattern asks of sets of code points: single characters, runs of characters, and letters
together with their other case.
-/

namespace RegexInference.Unicode.CodeSet

def has (s : CodeSet) (c : Char) : Bool := s.contains c.toNat

def ofChar (c : Char) : CodeSet := single c.toNat

/-- All characters from `first` to `last`.  The surrogates between them are no characters. -/
def ofChars (first last : Char) : CodeSet := inter (range first.toNat last.toNat) full

def only? (s : CodeSet) : Option Char :=
  match s.bounds with
  | [first, stop] => if stop = first + 1 then some (Char.ofNat first) else none
  | _ => none

def isEmpty (s : CodeSet) : Bool := s.bounds.isEmpty

/-- Whether some member is no ASCII character. -/
def beyondAscii (s : CodeSet) : Bool := s.bounds.any (0x80 < ·)

/-- The letters of the English alphabet, by their distance from the first one, whose form that
begins at `base` belongs to the set. -/
def lettersFrom (s : CodeSet) (base : Nat) : List Nat :=
  (List.range 26).filter fun i => s.contains (base + i)

/-- The set together with the other case of its ASCII letters. -/
def anyAsciiCase (s : CodeSet) : CodeSet :=
  s.union (ofCodes ((s.lettersFrom 0x61).map (0x41 + ·) ++ (s.lettersFrom 0x41).map (0x61 + ·)))

theorem has_union (s t : CodeSet) (c : Char) : (s.union t).has c = (s.has c || t.has c) :=
  contains_union s t c.toNat

theorem has_inter (s t : CodeSet) (c : Char) : (s.inter t).has c = (s.has c && t.has c) :=
  contains_inter s t c.toNat

theorem has_diff (s t : CodeSet) (c : Char) : (s.diff t).has c = (s.has c && !t.has c) :=
  contains_diff s t c.toNat

theorem has_symmDiff (s t : CodeSet) (c : Char) : (s.symmDiff t).has c = (s.has c ^^ t.has c) :=
  contains_symmDiff s t c.toNat

/-- Every character is a code point of the full set. -/
theorem has_full (c : Char) : full.has c = true := by
  have h : c.toNat < 0xD800 ∨ 0xDFFF < c.toNat ∧ c.toNat < 0x110000 := c.valid
  simp only [has, contains, full, isWithin]
  rcases h with h | ⟨h, h'⟩
  · simp [Nat.not_le.2 h, Nat.not_le.2 (Nat.lt_trans h (by decide : 0xD800 < 0xE000))]
  · simp [show (55296 ≤ c.toNat) by omega, show (57344 ≤ c.toNat) by omega, Nat.not_le.2 h']

theorem has_compl (s : CodeSet) (c : Char) : s.compl.has c = !s.has c := by
  have h : full.contains c.toNat = true := has_full c
  simp [has, h]

theorem has_ofChars (first last c : Char) :
    (ofChars first last).has c =
      (decide (first.toNat ≤ c.toNat) && decide (c.toNat ≤ last.toNat)) := by
  have h : full.contains c.toNat = true := has_full c
  simp [has, ofChars, h]

theorem has_ofChar (c d : Char) : (ofChar c).has d = (c == d) := by
  simp only [has, ofChar, single, contains_range]
  rw [Bool.eq_iff_iff]
  simp only [Bool.and_eq_true, decide_eq_true_eq, beq_iff_eq]
  constructor
  · rintro ⟨h, h'⟩
    exact Char.toNat_inj.1 (Nat.le_antisymm h h')
  · rintro rfl
    exact ⟨Nat.le_refl _, Nat.le_refl _⟩

end RegexInference.Unicode.CodeSet
