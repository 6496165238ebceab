import RegexInference.Proofs.Json.Numbers

/-!
# Decimals that are read back

The text of a decimal is read as its digits and its power of ten.  A whole number that is written
without an exponent has one more digit behind its point, which counts.
-/

namespace RegexInference.Decimal

open Json

namespace Scaled

/-! ## Texts -/

/-- The digits with zeros in front, so that one of them at least is before the point. -/
def padded (s : Scaled) : List Char :=
  List.replicate ((-s.exponent).toNat + 1 - (Nat.toDigits 10 s.digits).length) '0' ++
    Nat.toDigits 10 s.digits

/-- The parts of a decimal that is written without an exponent. -/
def plainText (s : Scaled) : NumberText :=
  if 0 ≤ s.exponent then
    { whole := Nat.toDigits 10 s.digits ++ List.replicate s.exponent.toNat '0'
      fraction := some ['0'] }
  else
    { whole := s.padded.take (s.padded.length - (-s.exponent).toNat)
      fraction := some (s.padded.drop (s.padded.length - (-s.exponent).toNat)) }

/-- The parts of a decimal that is written with an exponent. -/
def scientificText (s : Scaled) : NumberText :=
  let others := (Nat.toDigits 10 s.digits).tail
  let power := s.exponent + others.length
  { whole := (Nat.toDigits 10 s.digits).take 1
    fraction := if others.isEmpty then none else some others
    exponent := some (decide (power < 0), Nat.toDigits 10 power.natAbs) }

/-- Documents write the decimal without an exponent. -/
def IsPlain (s : Scaled) : Prop :=
  s.digits = 0 ∨ (-5 ≤ s.leadingPower ∧ s.leadingPower ≤ 15)

instance (s : Scaled) : Decidable s.IsPlain := inferInstanceAs (Decidable (_ ∨ _))

def text (s : Scaled) : NumberText := if s.IsPlain then s.plainText else s.scientificText

/-- The digits and the power of ten as a reader finds them in a document. -/
def asRead (s : Scaled) : Scaled :=
  if s.IsPlain ∧ 0 ≤ s.exponent then ⟨s.digits * 10 ^ s.exponent.toNat * 10, -1⟩ else s

theorem plain_eq (s : Scaled) : s.plain true = s.plainText.written := by
  unfold plain plainText
  by_cases hpos : 0 ≤ s.exponent
  · rw [if_pos hpos, if_pos hpos]
    simp [NumberText.written, NumberText.fractionText, NumberText.exponentText]
  · rw [if_neg hpos, if_neg hpos]
    simp only [NumberText.written, NumberText.fractionText, NumberText.exponentText,
      List.append_nil]
    rfl

theorem scientific_eq (s : Scaled) : s.scientific = s.scientificText.written := by
  unfold scientific scientificText
  obtain ⟨first, others, hdigits⟩ := List.exists_cons_of_ne_nil
    (Nat.toDigits_ne_nil (n := s.digits) (b := 10))
  rw [hdigits]
  cases others <;>
    simp [NumberText.written, NumberText.fractionText, NumberText.exponentText]

theorem writeScaled_document (s : Scaled) : Layout.document.writeScaled s = s.text.written := by
  have hlayout : Layout.document.writeScaled s = if s.IsPlain then s.plain true else s.scientific :=
    rfl
  rw [hlayout, plain_eq, scientific_eq, text]
  split_ifs <;> rfl

/-! ## Values -/

/-- The digits fit into 64 bits, and the exponent is not extreme; a zero has none. -/
structure Moderate (s : Scaled) : Prop where
  digits : s.digits < UInt64.size
  exponent : s.exponent.natAbs ≤ 1000
  zero : s.digits = 0 → s.exponent = 0

variable {s : Scaled}

theorem ofDigitChars_toDigits_zeros (n k : ℕ) :
    Nat.ofDigitChars 10 (Nat.toDigits 10 n ++ List.replicate k '0') 0 = n * 10 ^ k := by
  rw [Nat.ofDigitChars_append, Nat.ofDigitChars_ten_toDigits, Nat.ofDigitChars_replicate_zero,
    Nat.mul_comm]

theorem ofDigitChars_padded (s : Scaled) : Nat.ofDigitChars 10 s.padded 0 = s.digits := by
  rw [padded, Nat.ofDigitChars_append, Nat.ofDigitChars_replicate_zero, Nat.mul_zero,
    Nat.ofDigitChars_ten_toDigits]

theorem allDigits_padded (s : Scaled) : AllDigits s.padded :=
  (allDigits_replicate _).append (allDigits_toDigits _)

theorem length_padded (s : Scaled) :
    s.padded.length = max ((-s.exponent).toNat + 1) (Nat.toDigits 10 s.digits).length := by
  rw [padded, List.length_append, List.length_replicate]
  omega

/-- Only zero is written with a zero in front. -/
theorem toDigits_zero_cons {n : ℕ} {ds : List Char} (h : Nat.toDigits 10 n = '0' :: ds) : n = 0 := by
  cases ds with
  | nil =>
      have hdigits : Nat.ofDigitChars 10 (Nat.toDigits 10 n) 0 = n := Nat.ofDigitChars_ten_toDigits
      rw [h] at hdigits
      exact hdigits.symm
  | cons d ds => exact absurd h (toDigits_ne_zero_cons n d ds)

theorem wellFormed_plainText (hzero : s.digits = 0 → s.exponent ≤ 0) : s.plainText.WellFormed := by
  unfold plainText
  by_cases hpos : 0 ≤ s.exponent
  · rw [if_pos hpos]
    refine
      { whole := ⟨by simp [Nat.toDigits_ne_nil],
          (allDigits_toDigits _).append (allDigits_replicate _)⟩
        leading := ?_, fraction := ?_, exponent := by simp }
    · intro d ds heq
      obtain ⟨first, others, hdigits⟩ := List.exists_cons_of_ne_nil
        (Nat.toDigits_ne_nil (n := s.digits) (b := 10))
      have hfirst : first = '0' := by
        rw [hdigits] at heq
        exact (List.cons.inj heq).1
      have hnothing : s.digits = 0 := toDigits_zero_cons (hfirst ▸ hdigits)
      rw [hnothing, Int.toNat_of_nonpos (hzero hnothing)] at heq
      simp at heq
    · intro ds hds
      obtain rfl : ['0'] = ds := Option.some_inj.mp hds
      exact ⟨List.cons_ne_nil _ _, fun c hc => List.mem_singleton.mp hc ▸ rfl⟩
  · rw [if_neg hpos]
    have hlength := s.length_padded
    refine
      { whole := ⟨?_, fun c hc => s.allDigits_padded c (List.mem_of_mem_take hc)⟩
        leading := ?_, fraction := ?_, exponent := by simp }
    · rw [← List.length_pos_iff, List.length_take]
      omega
    · intro d ds heq
      have htwo := congrArg List.length heq
      rw [List.length_take, List.length_cons, List.length_cons] at htwo
      -- With two digits before the point no zero was put in front.
      have hnone : (-s.exponent).toNat + 1 - (Nat.toDigits 10 s.digits).length = 0 := by omega
      have hpadded : s.padded = Nat.toDigits 10 s.digits := by
        rw [padded, hnone]
        rfl
      obtain ⟨first, others, hdigits⟩ := List.exists_cons_of_ne_nil
        (Nat.toDigits_ne_nil (n := s.digits) (b := 10))
      obtain ⟨n, hn⟩ : ∃ n, s.padded.length - (-s.exponent).toNat = n + 1 :=
        Nat.exists_eq_add_of_le' (by omega)
      have hfirst : first = '0' := by
        rw [hn, hpadded, hdigits, List.take_succ_cons] at heq
        exact (List.cons.inj heq).1
      have hnothing : s.digits = 0 := toDigits_zero_cons (hfirst ▸ hdigits)
      rw [hnothing, Nat.toDigits_zero, List.length_singleton] at hnone
      omega
    · intro ds hds
      obtain rfl := Option.some_inj.mp hds
      refine ⟨?_, fun c hc => s.allDigits_padded c (List.mem_of_mem_drop hc)⟩
      rw [← List.length_pos_iff, List.length_drop]
      omega

theorem wellFormed_scientificText (s : Scaled) : s.scientificText.WellFormed := by
  obtain ⟨first, others, hdigits⟩ := List.exists_cons_of_ne_nil
    (Nat.toDigits_ne_nil (n := s.digits) (b := 10))
  have hall := allDigits_toDigits s.digits
  rw [hdigits] at hall
  obtain ⟨hfirst, hothers⟩ := List.forall_mem_cons.mp hall
  unfold scientificText
  rw [hdigits]
  refine
    { whole := ⟨List.cons_ne_nil _ _, fun c hc => List.mem_singleton.mp hc ▸ hfirst⟩
      leading := by simp, fraction := ?_, exponent := ?_ }
  · intro ds hds
    dsimp only at hds
    split_ifs at hds with hnone
    · cases hds
    · obtain rfl := Option.some_inj.mp hds
      exact ⟨by simpa using hnone, hothers⟩
  · intro e he
    obtain rfl := Option.some_inj.mp he
    exact ⟨Nat.toDigits_ne_nil, allDigits_toDigits _⟩

/-- What a reader makes of the text of a decimal. -/
structure ReadAs (t : NumberText) (s : Scaled) : Prop where
  wellFormed : t.WellFormed
  kind : t.fraction.isSome ∨ t.exponent.isSome
  digits : t.digits = s.digits
  power : t.power = s.exponent
  exponent : ∀ e ∈ t.exponent, Nat.ofDigitChars 10 e.2 0 < maxExponent

theorem readAs_plainText (hzero : s.digits = 0 → s.exponent ≤ 0) :
    ReadAs s.plainText
      (if 0 ≤ s.exponent then ⟨s.digits * 10 ^ s.exponent.toNat * 10, -1⟩ else s) := by
  have hwellFormed := wellFormed_plainText hzero
  unfold plainText at hwellFormed ⊢
  by_cases hpos : 0 ≤ s.exponent
  · rw [if_pos hpos] at hwellFormed
    rw [if_pos hpos, if_pos hpos]
    refine ⟨hwellFormed, Or.inl rfl, ?_, ?_, by simp⟩
    · rw [NumberText.digits, Option.getD_some, Nat.ofDigitChars_append, ofDigitChars_toDigits_zeros]
      simp [Nat.ofDigitChars_cons, Nat.mul_comm]
    · simp [NumberText.power, NumberText.exponentValue]
  · rw [if_neg hpos] at hwellFormed
    rw [if_neg hpos, if_neg hpos]
    have hlength := s.length_padded
    refine ⟨hwellFormed, Or.inl rfl, ?_, ?_, by simp⟩
    · rw [NumberText.digits, Option.getD_some, List.take_append_drop, ofDigitChars_padded]
    · simp only [NumberText.power, NumberText.exponentValue, Option.getD_some, List.length_drop]
      omega

theorem readAs_scientificText (h : s.Moderate) : ReadAs s.scientificText s := by
  have hwellFormed := wellFormed_scientificText s
  obtain ⟨first, others, hdigits⟩ := List.exists_cons_of_ne_nil
    (Nat.toDigits_ne_nil (n := s.digits) (b := 10))
  have hvalue : Nat.ofDigitChars 10 (first :: others) 0 = s.digits := by
    rw [← hdigits, Nat.ofDigitChars_ten_toDigits]
  have hlength : (first :: others).length ≤ 20 := by
    rw [← hdigits, Nat.length_toDigits_le_iff (by decide) (by decide)]
    exact h.digits.trans (by decide)
  have hfraction : (if others.isEmpty then none else some others : Option (List Char)).getD [] =
      others := by
    cases others <;> rfl
  have hsmall := h.exponent
  unfold scientificText at hwellFormed ⊢
  rw [hdigits, List.tail_cons] at hwellFormed ⊢
  refine ⟨hwellFormed, Or.inr rfl, ?_, ?_, ?_⟩
  · rw [NumberText.digits]
    simp only [hfraction]
    exact hvalue
  · have hpower : NumberText.exponentValue (some (decide (s.exponent + others.length < 0),
        Nat.toDigits 10 (s.exponent + others.length).natAbs)) = s.exponent + others.length := by
      simp only [NumberText.exponentValue, Nat.ofDigitChars_ten_toDigits, decide_eq_true_eq]
      split_ifs <;> omega
    rw [NumberText.power]
    simp only [hfraction, hpower]
    omega
  · intro e he
    obtain rfl := Option.some_inj.mp he
    rw [List.length_cons] at hlength
    have hlimit : (1100 : ℕ) < maxExponent := by decide
    simp only [Nat.ofDigitChars_ten_toDigits]
    omega

theorem readAs_text (h : s.Moderate) : ReadAs s.text s.asRead := by
  unfold text asRead
  by_cases hplain : s.IsPlain
  · simp only [hplain, if_true, true_and]
    exact readAs_plainText fun hzero => (h.zero hzero).le
  · simp only [hplain, if_false, false_and]
    exact readAs_scientificText h

/-- A whole number that is written without an exponent has 16 digits at most. -/
theorem digits_asRead_lt (h : s.Moderate) : s.asRead.digits < UInt64.size := by
  unfold asRead
  split_ifs with hwhole
  · obtain ⟨hplain, hpos⟩ := hwhole
    rcases hplain with hzero | ⟨-, hpower⟩
    · simp [hzero]
    · have hlength : (Nat.toDigits 10 s.digits).length + s.exponent.toNat ≤ 16 := by
        unfold leadingPower at hpower
        have hone : 0 < (Nat.toDigits 10 s.digits).length := Nat.length_toDigits_pos
        omega
      have hdigits : s.digits < 10 ^ (Nat.toDigits 10 s.digits).length :=
        (Nat.length_toDigits_le_iff (by decide) Nat.length_toDigits_pos).mp le_rfl
      calc
        s.digits * 10 ^ s.exponent.toNat * 10 ≤
            10 ^ (Nat.toDigits 10 s.digits).length * 10 ^ s.exponent.toNat * 10 := by gcongr
        _ = 10 ^ ((Nat.toDigits 10 s.digits).length + s.exponent.toNat + 1) := by
          rw [pow_succ, pow_add]
        _ ≤ 10 ^ 17 := Nat.pow_le_pow_right (by decide) (by omega)
        _ < UInt64.size := by decide
  · exact h.digits

end Scaled

end RegexInference.Decimal
