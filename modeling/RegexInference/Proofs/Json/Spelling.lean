import Mathlib.Data.Nat.Notation
import Mathlib.Tactic.SplitIfs
import RegexInference.Json.Reader

/-!
# How texts are spelled inside strings

Most characters of a string stand for themselves.  Some letters behind a backslash stand for a
character, and so does a code of four hexadecimal digits or, beyond U+FFFF, a pair of them.  However
a text is spelled it is read as what it is.  A string that is passed over need not spell a text: its
codes may be halves of pairs.
-/

namespace RegexInference.Json

/-! ## Codes -/

/-- A hexadecimal digit in lower or upper case, and its value. -/
def IsHexDigit (c : Char) (n : ℕ) : Prop := n < 16 ∧ (c = hexDigit n ∨ c = (hexDigit n).toUpper)

/-- Four hexadecimal digits, and the number that they write. -/
inductive IsCode : List Char → ℕ → Prop
  | digits {a b c d : Char} {i j k l : ℕ} (ha : IsHexDigit a i) (hb : IsHexDigit b j)
      (hc : IsHexDigit c k) (hd : IsHexDigit d l) :
      IsCode [a, b, c, d] (((i * 16 + j) * 16 + k) * 16 + l)

theorem isCode_hexDigits {i j k l : ℕ} (hi : i < 16) (hj : j < 16) (hk : k < 16) (hl : l < 16) :
    IsCode [hexDigit i, hexDigit j, hexDigit k, hexDigit l] (((i * 16 + j) * 16 + k) * 16 + l) :=
  .digits ⟨hi, Or.inl rfl⟩ ⟨hj, Or.inl rfl⟩ ⟨hk, Or.inl rfl⟩ ⟨hl, Or.inl rfl⟩

theorem hexValue?_hexDigit : ∀ n < 16, hexValue? (hexDigit n) = some n ∧
    hexValue? (hexDigit n).toUpper = some n := by decide

theorem utf8Size_hexDigit : ∀ n < 16, (hexDigit n).utf8Size = 1 ∧
    (hexDigit n).toUpper.utf8Size = 1 := by decide

namespace IsHexDigit

variable {c : Char} {n : ℕ}

theorem hexValue? (h : IsHexDigit c n) : hexValue? c = some n := by
  obtain ⟨hn, rfl | rfl⟩ := h
  · exact (hexValue?_hexDigit n hn).1
  · exact (hexValue?_hexDigit n hn).2

theorem utf8Size (h : IsHexDigit c n) : c.utf8Size = 1 := by
  obtain ⟨hn, rfl | rfl⟩ := h
  · exact (utf8Size_hexDigit n hn).1
  · exact (utf8Size_hexDigit n hn).2

end IsHexDigit

variable {code high low : List Char} {n : ℕ}

theorem scanHex_code (h : IsCode code n) (rest : List Char) :
    scanHex (code ++ rest) = .ok (n, rest) := by
  obtain ⟨ha, hb, hc, hd⟩ := h
  unfold scanHex endsWithinFour
  simp [ha.hexValue?, hb.hexValue?, hc.hexValue?, hd.hexValue?, ha.utf8Size, hb.utf8Size,
    hc.utf8Size, hd.utf8Size]

/-- A code that is no half of a pair stands for the character with this number. -/
theorem scanCode_code {c : Char} (h : IsCode code c.toNat) (rest : List Char) :
    scanCode (code ++ rest) = .ok (c, rest) := by
  have hvalid : c.toNat < 0xD800 ∨ 0xDFFF < c.toNat ∧ c.toNat < 0x110000 := c.valid
  have hnotLow : ¬ (0xDC00 ≤ c.toNat ∧ c.toNat ≤ 0xDFFF) := by omega
  have hplain : c.toNat < 0xD800 ∨ 0xDBFF < c.toNat := by omega
  unfold scanCode
  simp only [scanHex_code h, bind, Except.bind]
  rw [if_neg hnotLow, if_pos hplain]
  simp [pure, Except.pure]

/-- The number that the two halves of a pair make. -/
def pairValue (m n : ℕ) : ℕ := (m - 0xD800) * 0x400 + (n - 0xDC00) + 0x10000

theorem scanCode_pair {c : Char} {m : ℕ} (hhigh : IsCode high m) (hlow : IsCode low n)
    (hm : 0xD800 ≤ m ∧ m ≤ 0xDBFF) (hn : 0xDC00 ≤ n ∧ n ≤ 0xDFFF) (hc : c.toNat = pairValue m n)
    (rest : List Char) : scanCode (high ++ '\\' :: 'u' :: (low ++ rest)) = .ok (c, rest) := by
  have hnotLow : ¬ (0xDC00 ≤ m ∧ m ≤ 0xDFFF) := by omega
  have hnotPlain : ¬ (m < 0xD800 ∨ 0xDBFF < m) := by omega
  have hhalf : ¬ (n < 0xDC00 ∨ 0xDFFF < n) := by omega
  unfold scanCode
  simp only [scanHex_code hhigh, bind, Except.bind]
  rw [if_neg hnotLow, if_neg hnotPlain]
  simp only [scanHex_code hlow]
  rw [if_neg hhalf, ← pairValue, ← hc, Char.ofNat_toNat]
  rfl

/-! ## Characters -/

/-- The letters that stand for a character behind a backslash. -/
def letterEscapes : List (Char × Char) :=
  [('"', '"'), ('\\', '\\'), ('/', '/'), ('b', Char.ofNat 0x08), ('f', Char.ofNat 0x0C),
    ('n', '\n'), ('r', '\r'), ('t', '\t')]

theorem simpleEscape?_of_mem : ∀ e ∈ letterEscapes, e.1 ≠ 'u' ∧ simpleEscape? e.1 = some e.2 := by
  decide

/-- The characters that stand for themselves. -/
def IsPlain (c : Char) : Prop := c ≠ '"' ∧ c ≠ '\\' ∧ 0x20 ≤ c.toNat

instance : DecidablePred IsPlain := fun c =>
  inferInstanceAs (Decidable (c ≠ '"' ∧ c ≠ '\\' ∧ 0x20 ≤ c.toNat))

/-- A way to spell a character. -/
inductive IsSpelling (c : Char) : List Char → Prop
  | plain (h : IsPlain c) : IsSpelling c [c]
  | letter {e : Char} (h : (e, c) ∈ letterEscapes) : IsSpelling c ['\\', e]
  | code {code : List Char} (h : IsCode code c.toNat) : IsSpelling c ('\\' :: 'u' :: code)
  | pair {high low : List Char} {m n : ℕ} (hhigh : IsCode high m) (hlow : IsCode low n)
      (hm : 0xD800 ≤ m ∧ m ≤ 0xDBFF) (hn : 0xDC00 ≤ n ∧ n ≤ 0xDFFF)
      (hc : c.toNat = pairValue m n) :
      IsSpelling c ('\\' :: 'u' :: (high ++ '\\' :: 'u' :: low))

/-- A character is spelled as itself or by an escape. -/
theorem IsSpelling.scan {c : Char} {piece : List Char} (h : IsSpelling c piece) :
    (piece = [c] ∧ IsPlain c) ∨
      ∃ escape, piece = '\\' :: escape ∧ ∀ rest, scanEscape (escape ++ rest) = .ok (c, rest) := by
  cases h with
  | plain hplain => exact Or.inl ⟨rfl, hplain⟩
  | @letter e hmem =>
      obtain ⟨hcode, hescape⟩ := simpleEscape?_of_mem _ hmem
      refine Or.inr ⟨[e], rfl, fun rest => ?_⟩
      rw [List.singleton_append, scanEscape, hescape]
      exact hcode
  | @code code hcode => exact Or.inr ⟨'u' :: code, rfl, fun rest => scanCode_code hcode rest⟩
  | @pair high low m n hhigh hlow hm hn hc =>
      refine Or.inr ⟨'u' :: (high ++ '\\' :: 'u' :: low), rfl, fun rest => ?_⟩
      have hread := scanCode_pair hhigh hlow hm hn hc rest
      simpa [scanEscape] using hread

/-! ## Texts -/

/-- A way to spell a text, character by character. -/
inductive Spells : List Char → List Char → Prop
  | nil : Spells [] []
  | cons {c : Char} {piece cs text : List Char} (hpiece : IsSpelling c piece) (h : Spells cs text) :
      Spells (piece ++ cs) (c :: text)

/-- A string with what stands between its quotes. -/
def quoted (body : List Char) : List Char := '"' :: (body ++ ['"'])

theorem quoted_append (body rest : List Char) :
    quoted body ++ rest = '"' :: (body ++ '"' :: rest) := by
  unfold quoted
  rw [List.cons_append, List.append_assoc]
  rfl

theorem scanString_spelling {c : Char} {piece : List Char} (h : IsSpelling c piece) (f : Char)
    (fuel cs : List Char) : scanString (f :: fuel) (piece ++ cs) =
      (scanString fuel cs).map fun r => (c :: r.1, r.2) := by
  rcases h.scan with ⟨rfl, hquote, hbackslash, hcontrol⟩ | ⟨escape, rfl, hscan⟩
  · rw [List.singleton_append, scanString, if_neg hquote, if_neg hbackslash,
      if_neg (Nat.not_lt.mpr hcontrol)]
    cases scanString fuel cs <;> rfl
  · rw [List.cons_append, scanString, if_neg (by decide), if_pos rfl, hscan]
    simp only [bind, Except.bind]
    cases scanString fuel cs <;> rfl

theorem IsSpelling.length_pos {c : Char} {piece : List Char} (h : IsSpelling c piece) :
    0 < piece.length := by
  cases h <;> exact Nat.zero_lt_succ _

theorem Spells.length_le {cs text : List Char} (h : Spells cs text) : text.length ≤ cs.length := by
  induction h with
  | nil => exact Nat.le_refl 0
  | cons hpiece _ ih =>
      have hpos := hpiece.length_pos
      rw [List.length_append, List.length_cons]
      omega

theorem scanString_spelled {cs text : List Char} (h : Spells cs text) {fuel : List Char}
    (hfuel : text.length < fuel.length) (rest : List Char) :
    scanString fuel (cs ++ '"' :: rest) = .ok (text, rest) := by
  induction h generalizing fuel with
  | nil =>
      obtain ⟨f, fuel, rfl⟩ := List.exists_cons_of_length_pos hfuel
      rfl
  | cons hpiece _ ih =>
      obtain ⟨f, fuel, rfl⟩ := List.exists_cons_of_length_pos (Nat.zero_lt_of_lt hfuel)
      rw [List.append_assoc, scanString_spelling hpiece, ih (Nat.lt_of_succ_lt_succ hfuel)]
      rfl

/-- However a text is spelled, it is read as it is, behind its opening quote. -/
theorem readText_spelled {cs : List Char} {text : String} (h : Spells cs text.toList)
    (rest : List Char) : readText (cs ++ '"' :: rest) = .ok (text, rest) := by
  have hfuel : text.toList.length < (cs ++ '"' :: rest).length := by
    have hle := h.length_le
    rw [List.length_append, List.length_cons]
    omega
  unfold readText
  rw [scanString_spelled h hfuel]
  simp [bind, Except.bind, pure, Except.pure]

/-! ## What is written -/

theorem isCode_control {n : ℕ} (hn : n < 0x20) :
    IsCode ['0', '0', hexDigit (n / 16), hexDigit (n % 16)] n := by
  have hcode := isCode_hexDigits (i := 0) (j := 0) (k := n / 16) (l := n % 16) (by decide)
    (by decide) (by omega) (by omega)
  have hvalue : ((0 * 16 + 0) * 16 + n / 16) * 16 + n % 16 = n := by omega
  rwa [hvalue] at hcode

theorem isSpelling_escapeChar (c : Char) : IsSpelling c (escapeChar c) := by
  have hsame : ∀ {d : Char}, c.toNat = d.toNat → c = d := Char.toNat_inj.mp
  unfold escapeChar
  split_ifs with hquote hbackslash hback hfeed hline hreturn htab hcontrol
  · exact .letter (by subst hquote; decide)
  · exact .letter (by subst hbackslash; decide)
  · exact .letter (hsame (d := Char.ofNat 0x08) hback ▸ by decide)
  · exact .letter (hsame (d := Char.ofNat 0x0C) hfeed ▸ by decide)
  · exact .letter (hline ▸ by decide)
  · exact .letter (hreturn ▸ by decide)
  · exact .letter (htab ▸ by decide)
  · exact .code (isCode_control hcontrol)
  · exact .plain ⟨hquote, hbackslash, Nat.not_lt.mp hcontrol⟩

/-- The writer spells every text. -/
theorem spells_escaped (text : List Char) : Spells (text.flatMap escapeChar) text := by
  induction text with
  | nil => exact .nil
  | cons c text ih => exact .cons (isSpelling_escapeChar c) ih

end RegexInference.Json
