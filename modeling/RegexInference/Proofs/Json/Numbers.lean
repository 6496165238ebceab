import Mathlib.Algebra.Order.Group.Nat
import Mathlib.Data.List.TakeDrop
import RegexInference.Proofs.Json.Scalars

/-!
# Numbers that are read back

The digits of a number are read up to what ends it.  As long as all of them fit into 64 bits, the
number is the one that they write, with a power of ten for the places behind the point.
-/

namespace RegexInference.Json

/-! ## Digits -/

def AllDigits (ds : List Char) : Prop := ∀ c ∈ ds, c.isDigit = true

/-- The number does not go on with these characters. -/
def EndsNumber (rest : List Char) : Prop :=
  ∀ c ∈ rest.head?, c.isDigit = false ∧ c ≠ '.' ∧ c ≠ 'e' ∧ c ≠ 'E'

theorem isBlank_iff {c : Char} : isBlank c = true ↔ c = ' ' ∨ c = '\n' ∨ c = '\t' ∨ c = '\r' := by
  simp [isBlank, or_assoc]

theorem endsNumber_of_delimited {rest : List Char} (h : Delimited rest) : EndsNumber rest := by
  intro c hc
  rcases h c hc with hblank | rfl | rfl | rfl
  · rcases isBlank_iff.mp hblank with rfl | rfl | rfl | rfl <;> decide
  · decide
  · decide
  · decide

theorem allDigits_toDigits (n : ℕ) : AllDigits (Nat.toDigits 10 n) :=
  fun _ hc => Nat.isDigit_of_mem_toDigits (by decide) (by decide) hc

theorem ofDigitChars_lt {ds : List Char} (hds : AllDigits ds) :
    Nat.ofDigitChars 10 ds 0 < 10 ^ ds.length := by
  induction ds with
  | nil => decide
  | cons c ds ih =>
      obtain ⟨hc, hds⟩ := List.forall_mem_cons.mp hds
      have hvalue : c.toNat - '0'.toNat ≤ 9 := by
        have hrange := Char.isDigit_iff_toNat.mp hc
        have hzero : '0'.toNat = 48 := rfl
        have hnine : '9'.toNat = 57 := rfl
        omega
      rw [Nat.ofDigitChars_cons, Nat.ofDigitChars_eq_ofDigitChars_zero, List.length_cons, pow_succ']
      have hrest := ih hds
      nlinarith [Nat.mul_le_mul_left (10 ^ ds.length) hvalue]

/-- No zero is written in front of other digits. -/
theorem toDigits_ne_zero_cons (n : ℕ) (d : Char) (ds : List Char) :
    Nat.toDigits 10 n ≠ '0' :: d :: ds := by
  intro heq
  have hds : AllDigits (d :: ds) := by
    have hall := allDigits_toDigits n
    rw [heq] at hall
    exact (List.forall_mem_cons.mp hall).2
  have hvalue : n = Nat.ofDigitChars 10 (d :: ds) 0 := by
    have hdigits : Nat.ofDigitChars 10 (Nat.toDigits 10 n) 0 = n := Nat.ofDigitChars_ten_toDigits
    rw [heq, Nat.ofDigitChars_cons] at hdigits
    exact hdigits.symm
  have hlength := (Nat.length_toDigits_le_iff (by decide) (Nat.succ_pos ds.length)).mpr
    (hvalue ▸ ofDigitChars_lt hds)
  rw [heq] at hlength
  simp at hlength

theorem allDigits_replicate (n : ℕ) : AllDigits (List.replicate n '0') := by
  intro c hc
  rw [List.eq_of_mem_replicate hc]
  rfl

theorem AllDigits.append {ds es : List Char} (hds : AllDigits ds) (hes : AllDigits es) :
    AllDigits (ds ++ es) := by
  intro c hc
  rcases List.mem_append.mp hc with h | h
  · exact hds c h
  · exact hes c h

theorem spanDigits_append {ds rest : List Char} (hds : AllDigits ds)
    (hrest : ∀ c ∈ rest.head?, c.isDigit = false) : spanDigits (ds ++ rest) = (ds, rest) := by
  unfold spanDigits
  rw [List.span_eq_takeWhile_dropWhile, List.takeWhile_append_of_pos hds,
    List.dropWhile_append_of_pos hds]
  cases rest with
  | nil => simp
  | cons c rest => simp [hrest c rfl]

theorem scanDigits_append {ds rest : List Char} (hsome : ds ≠ []) (hds : AllDigits ds)
    (hrest : ∀ c ∈ rest.head?, c.isDigit = false) : scanDigits (ds ++ rest) = .ok (ds, rest) := by
  obtain ⟨d, ds, rfl⟩ := List.exists_cons_of_ne_nil hsome
  unfold scanDigits
  rw [spanDigits_append hds hrest]

/-! ## Texts of numbers -/

namespace NumberText

def fractionText : Option (List Char) → List Char
  | none => []
  | some ds => '.' :: ds

def exponentText : Option (Bool × List Char) → List Char
  | none => []
  | some (negative, ds) => 'e' :: (if negative then '-' else '+') :: ds

/-- The text as it is written, with a sign in front of every exponent. -/
def written (t : NumberText) : List Char :=
  t.whole ++ (fractionText t.fraction ++ exponentText t.exponent)

/-- There are digits wherever some have to be, and no zero in front of others. -/
structure WellFormed (t : NumberText) : Prop where
  whole : t.whole ≠ [] ∧ AllDigits t.whole
  leading : ∀ d ds, t.whole ≠ '0' :: d :: ds
  fraction : ∀ ds ∈ t.fraction, ds ≠ [] ∧ AllDigits ds
  exponent : ∀ e ∈ t.exponent, e.2 ≠ [] ∧ AllDigits e.2

variable {t : NumberText}

theorem scanWhole_append {ds : List Char} (hds : ds ≠ [] ∧ AllDigits ds)
    (hleading : ∀ d rest, ds ≠ '0' :: d :: rest) {rest : List Char}
    (hrest : ∀ c ∈ rest.head?, c.isDigit = false) : scanWhole (ds ++ rest) = .ok (ds, rest) := by
  unfold scanWhole
  rw [scanDigits_append hds.1 hds.2 hrest]
  simp only [bind, Except.bind]
  rfl

/-- The signs of exponents, and whether they are negative. -/
def exponentSigns : List (List Char × Bool) := [([], false), (['+'], false), (['-'], true)]

/-- A way to write an exponent, or to leave it out. -/
inductive ExponentSpelling : List Char → Option (Bool × List Char) → Prop
  | absent : ExponentSpelling [] none
  | digits {mark : Char} {sign : List Char × Bool} {ds : List Char}
      (hmark : mark = 'e' ∨ mark = 'E') (hsign : sign ∈ exponentSigns)
      (hds : ds ≠ [] ∧ AllDigits ds) :
      ExponentSpelling (mark :: (sign.1 ++ ds)) (some (sign.2, ds))

theorem exponentSpelling_exponentText {exponent : Option (Bool × List Char)}
    (h : ∀ e ∈ exponent, e.2 ≠ [] ∧ AllDigits e.2) :
    ExponentSpelling (exponentText exponent) exponent := by
  cases exponent with
  | none => exact .absent
  | some e =>
      obtain ⟨negative, ds⟩ := e
      have hds : ds ≠ [] ∧ AllDigits ds := h _ rfl
      cases negative with
      | false =>
          have hsign : (['+'], false) ∈ exponentSigns := by decide
          exact .digits (Or.inl rfl) hsign hds
      | true =>
          have hsign : (['-'], true) ∈ exponentSigns := by decide
          exact .digits (Or.inl rfl) hsign hds

theorem splitSign_append {sign : List Char × Bool} (hsign : sign ∈ exponentSigns) {d : Char}
    (hd : d.isDigit = true) (rest : List Char) :
    splitSign (sign.1 ++ d :: rest) = (sign.2, d :: rest) := by
  simp only [exponentSigns, List.mem_cons, List.not_mem_nil, or_false] at hsign
  rcases hsign with rfl | rfl | rfl
  · have hminus : d ≠ '-' := by
      rintro rfl
      exact absurd hd (by decide)
    have hplus : d ≠ '+' := by
      rintro rfl
      exact absurd hd (by decide)
    simp [splitSign, hminus, hplus]
  · rfl
  · rfl

theorem scanExponent_append {exponent : List Char} {e : Option (Bool × List Char)}
    (h : ExponentSpelling exponent e) {rest : List Char} (hrest : EndsNumber rest) :
    scanExponent (exponent ++ rest) = .ok (e, rest) := by
  cases h with
  | absent =>
      cases rest with
      | nil => rfl
      | cons c rest =>
          obtain ⟨-, -, hlower, hupper⟩ := hrest c rfl
          have hneither : ¬ (c = 'e' ∨ c = 'E') := by simp [hlower, hupper]
          rw [List.nil_append, scanExponent, if_neg hneither]
  | @digits mark sign ds hmark hsign hds =>
      have hdigits := scanDigits_append hds.1 hds.2 fun c hc => (hrest c hc).1
      obtain ⟨d, ds, rfl⟩ := List.exists_cons_of_ne_nil hds.1
      rw [List.cons_append, List.append_assoc, List.cons_append, scanExponent, if_pos hmark,
        splitSign_append hsign (hds.2 d List.mem_cons_self)]
      rw [List.cons_append] at hdigits
      simp only [bind, Except.bind, hdigits]
      rfl

theorem scanFraction_append {fraction : Option (List Char)}
    (h : ∀ ds ∈ fraction, ds ≠ [] ∧ AllDigits ds) {rest : List Char}
    (hrest : ∀ c ∈ rest.head?, c.isDigit = false ∧ c ≠ '.') :
    scanFraction (fractionText fraction ++ rest) = .ok (fraction, rest) := by
  cases fraction with
  | none =>
      change scanFraction rest = _
      unfold scanFraction
      split
      · exact absurd rfl (hrest _ rfl).2
      · rfl
  | some ds =>
      obtain ⟨hsome, hds⟩ := h ds rfl
      change scanFraction ('.' :: (ds ++ rest)) = _
      rw [scanFraction, scanDigits_append hsome hds fun c hc => (hrest c hc).1]
      rfl

theorem ExponentSpelling.head? {exponent : List Char} {e : Option (Bool × List Char)}
    (h : ExponentSpelling exponent e) {rest : List Char} (hrest : EndsNumber rest) :
    ∀ c ∈ (exponent ++ rest).head?, c.isDigit = false ∧ c ≠ '.' := by
  intro c hc
  cases h with
  | absent => exact ⟨(hrest c hc).1, (hrest c hc).2.1⟩
  | digits hmark =>
      obtain rfl := Option.some_inj.mp hc
      rcases hmark with rfl | rfl <;> decide

/-- A number is read up to what ends it, however its exponent is written. -/
theorem scanNumberText_spelled (h : t.WellFormed) {exponent : List Char}
    (hspelled : ExponentSpelling exponent t.exponent) {rest : List Char} (hrest : EndsNumber rest) :
    scanNumberText (t.whole ++ (fractionText t.fraction ++ exponent) ++ rest) = .ok (t, rest) := by
  have hexponent := hspelled.head? hrest
  have hfraction : ∀ c ∈ (fractionText t.fraction ++ (exponent ++ rest)).head?,
      c.isDigit = false := by
    intro c hc
    rcases hcase : t.fraction with _ | ds <;> rw [hcase] at hc
    · exact (hexponent c hc).1
    · obtain rfl : '.' = c := Option.some_inj.mp hc
      decide
  unfold scanNumberText
  rw [List.append_assoc, List.append_assoc, scanWhole_append h.whole h.leading hfraction]
  simp only [bind, Except.bind]
  rw [scanFraction_append h.fraction hexponent]
  simp only
  rw [scanExponent_append hspelled hrest]
  rfl

end NumberText

/-! ## Values -/

namespace Significand

theorem le_ofDigitChars (ds : List Char) (n : ℕ) : n ≤ Nat.ofDigitChars 10 ds n := by
  rw [Nat.ofDigitChars_eq_ofDigitChars_zero]
  exact (Nat.le_mul_of_pos_left n (by positivity)).trans (Nat.le_add_right _ _)

/-- Digits before the point are taken in as long as they fit. -/
theorem foldl_pushWhole (ds : List Char) {n : ℕ} (hfits : Nat.ofDigitChars 10 ds n < UInt64.size) :
    ds.foldl pushWhole { digits := n } = { digits := Nat.ofDigitChars 10 ds n } := by
  induction ds generalizing n with
  | nil => rfl
  | cons c ds ih =>
      rw [Nat.ofDigitChars_cons, Nat.mul_comm] at hfits ⊢
      have hnext : ¬ UInt64.size ≤ n * 10 + digitValue c :=
        Nat.not_le.mpr ((le_ofDigitChars ds _).trans_lt hfits)
      have hpush : pushWhole { digits := n } c = { digits := n * 10 + digitValue c } := by
        unfold pushWhole
        simp [hnext]
      rw [List.foldl_cons, hpush]
      exact ih hfits

theorem pushFraction_eq (ds : List Char) {n : ℕ} {power : ℤ}
    (hfits : Nat.ofDigitChars 10 ds n < UInt64.size) :
    pushFraction { digits := n, power } ds =
      { digits := Nat.ofDigitChars 10 ds n, power := power - ds.length } := by
  induction ds generalizing n power with
  | nil => simp [pushFraction]
  | cons c ds ih =>
      rw [Nat.ofDigitChars_cons, Nat.mul_comm] at hfits ⊢
      have hnext : ¬ n * 10 + digitValue c ≥ UInt64.size :=
        Nat.not_le.mpr ((le_ofDigitChars ds _).trans_lt hfits)
      unfold pushFraction
      dsimp only
      rw [if_neg hnext]
      refine (ih hfits).trans ?_
      rw [List.length_cons]
      congr 1
      omega

end Significand

namespace NumberText

theorem value?_integer {whole : List Char}
    (hfits : Nat.ofDigitChars 10 whole 0 < UInt64.size) :
    value? false { whole } = some (.integer (Nat.ofDigitChars 10 whole 0 : ℕ)) := by
  unfold value?
  simp only [Significand.foldl_pushWhole whole hfits]
  simp

/-- The digits before and behind the point as one number. -/
def digits (t : NumberText) : ℕ := Nat.ofDigitChars 10 (t.whole ++ t.fraction.getD []) 0

def exponentValue : Option (Bool × List Char) → ℤ
  | none => 0
  | some (negative, ds) =>
    if negative then -(Nat.ofDigitChars 10 ds 0 : ℤ) else Nat.ofDigitChars 10 ds 0

/-- The power of ten by which the digits are to be scaled. -/
def power (t : NumberText) : ℤ := exponentValue t.exponent - (t.fraction.getD []).length

/-- With a point or an exponent the digits are scaled. -/
theorem value?_float (negative : Bool) (t : NumberText)
    (hkind : t.fraction.isSome ∨ t.exponent.isSome) (hfits : t.digits < UInt64.size)
    (hexponent : ∀ e ∈ t.exponent, Nat.ofDigitChars 10 e.2 0 < maxExponent) :
    t.value? negative =
      (scaleByTen 8 t.digits.toUInt64.toFloat t.power).map fun x =>
        .float (withSign negative x) := by
  obtain ⟨whole, fraction, exponent⟩ := t
  have hwhole : Nat.ofDigitChars 10 whole 0 < UInt64.size := by
    refine (Significand.le_ofDigitChars (fraction.getD []) _).trans_lt ?_
    rwa [digits, Nat.ofDigitChars_append] at hfits
  have hpushed : (whole.foldl Significand.pushWhole {}).pushFraction (fraction.getD []) =
      { digits := digits ⟨whole, fraction, exponent⟩, power := 0 - (fraction.getD []).length } := by
    rw [Significand.foldl_pushWhole whole hwhole]
    refine (Significand.pushFraction_eq _ ?_).trans ?_
    · rwa [digits, Nat.ofDigitChars_append] at hfits
    · rw [digits, Nat.ofDigitChars_append]
  cases exponent with
  | none =>
      obtain ⟨ds, rfl⟩ : ∃ ds, fraction = some ds :=
        Option.isSome_iff_exists.mp (by simpa using hkind)
      unfold value?
      simp only [hpushed]
      rfl
  | some e =>
      obtain ⟨small, ds⟩ := e
      have hfold : ds.foldl (fun n c => n * 10 + Significand.digitValue c) 0 =
          Nat.ofDigitChars 10 ds 0 := by
        rw [Nat.ofDigitChars_eq_foldl]
        simp only [Nat.mul_comm, Significand.digitValue]
      have hmoderate : ¬ Nat.ofDigitChars 10 ds 0 ≥ maxExponent := Nat.not_le.mpr (hexponent _ rfl)
      unfold value?
      simp only [hpushed, hfold, if_neg hmoderate]
      have hpower : power ⟨whole, fraction, some (small, ds)⟩ =
          if small then 0 - ((fraction.getD []).length : ℤ) - Nat.ofDigitChars 10 ds 0
          else 0 - ((fraction.getD []).length : ℤ) + Nat.ofDigitChars 10 ds 0 := by
        unfold power exponentValue
        dsimp only
        split_ifs <;> omega
      rw [hpower]

end NumberText

/-! ## Readers -/

namespace NumberText

/-- The text with its sign. -/
def signed (negative : Bool) (t : NumberText) : List Char :=
  if negative then '-' :: t.written else t.written

variable {t : NumberText}

/-- What a reader of numbers makes of a text. -/
def converted {α : Type} (t : NumberText) (negative : Bool)
    (convert : Number → Except Mismatch α) : Except Error α :=
  match t.value? negative with
  | none => .error (.malformed .numberOutOfRange)
  | some n => (convert n).mapError .mismatch

section

variable (h : t.WellFormed) {exponent : List Char} (hspelled : ExponentSpelling exponent t.exponent)
include h

include hspelled in
theorem readNumber_spelled (negative : Bool) {rest : List Char} (hrest : EndsNumber rest) :
    readNumber negative (t.whole ++ (fractionText t.fraction ++ exponent) ++ rest) =
      match t.value? negative with
      | some n => .ok (n, rest)
      | none => .error (.malformed .numberOutOfRange) := by
  unfold readNumber
  rw [scanNumberText_spelled h hspelled hrest]
  simp only [bind, Except.bind]
  cases t.value? negative <;> rfl

theorem exists_digit (exponent : List Char) :
    ∃ d ds, t.whole ++ (fractionText t.fraction ++ exponent) = d :: ds ∧ d.isDigit = true ∧
      d ≠ '-' ∧ isBlank d = false := by
  obtain ⟨d, ds, hwhole⟩ := List.exists_cons_of_ne_nil h.whole.1
  have hdigit : d.isDigit = true := h.whole.2 d (hwhole ▸ List.mem_cons_self)
  refine ⟨d, ds ++ (fractionText t.fraction ++ exponent), by rw [hwhole]; rfl, hdigit, ?_, ?_⟩
  · rintro rfl
    exact absurd hdigit (by decide)
  · rw [← Bool.not_eq_true, isBlank_iff]
    rintro (rfl | rfl | rfl | rfl) <;> exact absurd hdigit (by decide)

end

end NumberText

namespace Reader

variable {gap : List Char} (hgap : Blanks gap) (depth : ℕ)
include hgap

/-- A number is read up to what ends it, however its exponent is written. -/
theorem number_takes_spelled {α : Type} {t : NumberText} (h : t.WellFormed) {exponent : List Char}
    (hspelled : NumberText.ExponentSpelling exponent t.exponent) (negative : Bool)
    (expected : String) (convert : Number → Except Mismatch α) {text : List Char}
    (htext : text = t.whole ++ (NumberText.fractionText t.fraction ++ exponent)) :
    (Reader.number expected convert).Takes depth
      (gap ++ if negative then '-' :: text else text) (t.converted negative convert) := by
  subst htext
  intro rest hrest
  have hread := t.readNumber_spelled h hspelled negative (endsNumber_of_delimited hrest)
  obtain ⟨d, ds, htext, hdigit, hminus, hblank⟩ := t.exists_digit h exponent
  unfold Reader.number NumberText.converted
  rw [List.append_assoc, skipBlanks_append hgap]
  cases negative with
  | true =>
      rw [if_pos rfl, List.cons_append, skipBlanks_cons (by decide)]
      simp only [hread, bind, Except.bind]
      cases t.value? true with
      | none => rfl
      | some n => dsimp only; cases convert n <;> rfl
  | false =>
      rw [htext, List.cons_append] at hread
      rw [if_neg (by decide), htext, List.cons_append, skipBlanks_cons hblank]
      simp only [hdigit, if_true, hread, bind, Except.bind]
      cases t.value? false with
      | none => rfl
      | some n => dsimp only; cases convert n <;> rfl

theorem number_takes {α : Type} {t : NumberText} (h : t.WellFormed) (negative : Bool)
    (expected : String) (convert : Number → Except Mismatch α) :
    (Reader.number expected convert).Takes depth (gap ++ t.signed negative)
      (t.converted negative convert) :=
  number_takes_spelled hgap depth h (NumberText.exponentSpelling_exponentText h.exponent) negative
    expected convert rfl

theorem natural_takes_digits {limit : ℕ} (hlimit : limit ≤ UInt64.size) (expected : String) {n : ℕ}
    (hn : n < limit) :
    (Reader.natural limit expected).Takes depth (gap ++ Nat.toDigits 10 n) (.ok n) := by
  let t : NumberText := { whole := Nat.toDigits 10 n }
  have hwellFormed : t.WellFormed :=
    { whole := ⟨Nat.toDigits_ne_nil, allDigits_toDigits n⟩
      leading := toDigits_ne_zero_cons n
      fraction := by simp [t]
      exponent := by simp [t] }
  have hvalue : t.value? false = some (.integer n) := by
    have hdigits : Nat.ofDigitChars 10 (Nat.toDigits 10 n) 0 = n := Nat.ofDigitChars_ten_toDigits
    rw [NumberText.value?_integer (by rw [hdigits]; exact hn.trans_le hlimit), hdigits]
  have htext : t.signed false = Nat.toDigits 10 n := by
    simp [t, NumberText.signed, NumberText.written, NumberText.fractionText,
      NumberText.exponentText]
  have htakes : (Reader.natural limit expected).Takes depth (gap ++ t.signed false) _ :=
    number_takes hgap depth hwellFormed false expected _
  rw [NumberText.converted, hvalue, htext] at htakes
  simp only [Int.natCast_nonneg, Nat.cast_lt, hn, and_self, if_true, Int.toNat_natCast,
    Except.mapError] at htakes
  exact htakes

theorem natural_takes {limit : ℕ} (hlimit : limit ≤ UInt64.size) (expected : String) {n : ℕ}
    (hn : n < limit) :
    (Reader.natural limit expected).Takes depth (gap ++ (Value.integer n).compact) (.ok n) := by
  have htext : (Value.integer n).compact = Nat.toDigits 10 n := by
    change (toString n).toList = _
    rw [Nat.toString_eq_ofList_toDigits, String.toList_ofList]
  rw [htext]
  exact natural_takes_digits hgap depth hlimit expected hn

end Reader

end RegexInference.Json
