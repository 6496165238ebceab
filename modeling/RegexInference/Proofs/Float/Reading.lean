import RegexInference.Decimal.Shortest
import RegexInference.Proofs.Float.Finite

/-!
# Numbers taken apart

The bits of a number are read once to write it down and once to calculate with it.  Both find the
same sign, mantissa and exponent, and these determine the number.
-/

namespace RegexInference.Binary64

open Decimal Float.Model Float.Model.UnpackedFloat

def isNegative : Sign → Bool
  | .negative => true
  | .positive => false

/-- What is written of an unpacked number. -/
def reading : UnpackedFloat → Reading
  | .notANumber => .nan
  | .infinity s => .infinite (isNegative s)
  | .zero s => .finite (isNegative s) 0 (-1074)
  | .finite s m e _ => .finite (isNegative s) m e

theorem reading_finite (s : Sign) (m : ℕ) (e : ℤ) (hm : 0 < m) :
    reading (.finite s m e hm) = .finite (isNegative s) m e := rfl

theorem isNegative_ofBitVec (v : BitVec 1) : isNegative (Sign.ofBitVec v) = (v.toNat == 1) := by
  revert v
  decide

theorem reading_ofComponents (s : Sign) (e : BitVec 11) (m : BitVec 52) :
    reading (ofComponents s e m) =
      if e.toNat = 2047 then (if m.toNat = 0 then .infinite (isNegative s) else .nan)
      else if e.toNat = 0 then .finite (isNegative s) m.toNat (-1074)
      else .finite (isNegative s) (2 ^ 52 + m.toNat) ((e.toNat : ℤ) - 1075) := by
  have hfull : e = -1#11 ↔ e.toNat = 2047 := BitVec.toNat_inj.symm
  have hleast : e = 0#11 ↔ e.toNat = 0 := BitVec.toNat_inj.symm
  have hempty : m = 0#52 ↔ m.toNat = 0 := BitVec.toNat_inj.symm
  unfold ofComponents
  by_cases he : e = -1#11
  · rw [if_pos he, if_pos (hfull.mp he)]
    by_cases hm : m = 0#52
    · rw [if_pos hm, if_pos (hempty.mp hm)]
      rfl
    · rw [if_neg hm, if_neg (mt hempty.mpr hm)]
      rfl
  · rw [if_neg he, if_neg (mt hfull.mpr he)]
    by_cases he' : e = 0#11
    · rw [if_pos he', if_pos (hleast.mp he')]
      by_cases hm : m = 0#52
      · rw [dif_pos hm, hempty.mp hm]
        rfl
      · rw [dif_neg hm, hleast.mp he']
        rfl
    · rw [if_neg he', if_neg (mt hleast.mpr he'), reading_finite, append_implicit_toNat]

theorem ofFloat_eq_reading (x : Float) : Reading.ofFloat x = reading x.toModel.unpack := by
  have hbits := toNat_eq_components x.toModel.toBits.toBitVec
  have hread : reading x.toModel.unpack = reading (ofComponents
      (Sign.ofBitVec (@unpackSign Format.binary64 x.toModel.toBits.toBitVec))
      (@unpackExponent Format.binary64 x.toModel.toBits.toBitVec)
      (@unpackMantissa Format.binary64 x.toModel.toBits.toBitVec)) :=
    congrArg reading (unpack_of_components rfl rfl rfl)
  rw [hread, reading_ofComponents, isNegative_ofBitVec]
  have hs : (@unpackSign Format.binary64 x.toModel.toBits.toBitVec).toNat < 2 := BitVec.isLt _
  have he : (@unpackExponent Format.binary64 x.toModel.toBits.toBitVec).toNat < 2 ^ 11 :=
    BitVec.isLt _
  have hm : (@unpackMantissa Format.binary64 x.toModel.toBits.toBitVec).toNat < 2 ^ 52 :=
    BitVec.isLt _
  generalize (@unpackSign Format.binary64 x.toModel.toBits.toBitVec).toNat = s at hbits hs
  generalize (@unpackExponent Format.binary64 x.toModel.toBits.toBitVec).toNat = e at hbits he
  generalize (@unpackMantissa Format.binary64 x.toModel.toBits.toBitVec).toNat = m at hbits hm
  have hx : x.toBits.toNat = s * 2 ^ 63 + e * 2 ^ 52 + m := hbits
  have hsign : x.toBits.toNat >>> 63 = s := by
    rw [Nat.shiftRight_eq_div_pow]
    omega
  have hexponent : (x.toBits.toNat >>> 52) % 0x800 = e := by
    rw [Nat.shiftRight_eq_div_pow]
    omega
  have hmantissa : x.toBits.toNat % 0x10000000000000 = m := by omega
  unfold Reading.ofFloat
  simp only [hsign, hexponent, hmantissa]
  rfl

/-- The bits of a finite number are those of its parts.  The leading bit of a full mantissa counts as
one step of the exponent. -/
structure MadeOf (x : Float) (negative : Bool) (m : ℕ) (e : ℤ) : Prop where
  bits : x.toBits.toNat = negative.toNat * 2 ^ 63 + (e + 1074).toNat * 2 ^ 52 + m
  mantissa : m < 2 ^ 53
  exponent : -1074 ≤ e ∧ e ≤ 971

theorem madeOf_of_ofFloat {x : Float} {negative : Bool} {m : ℕ} {e : ℤ}
    (h : Reading.ofFloat x = .finite negative m e) : MadeOf x negative m e := by
  have hlt : x.toBits.toNat < 2 ^ 64 := x.toBits.toNat_lt
  unfold Reading.ofFloat at h
  simp only [Nat.shiftRight_eq_div_pow] at h
  split_ifs at h with hfull hfraction hleast <;> injection h with hs hm he
  all_goals
    have hnegative : negative.toNat = x.toBits.toNat / 2 ^ 63 := by
      have hone : x.toBits.toNat / 2 ^ 63 = 0 ∨ x.toBits.toNat / 2 ^ 63 = 1 := by omega
      rcases hone with hone | hone <;> rw [hone] at hs ⊢ <;> subst hs <;> rfl
    exact ⟨by omega, by omega, by omega⟩

theorem MadeOf.eq {x y : Float} {negative : Bool} {m : ℕ} {e : ℤ} (hx : MadeOf x negative m e)
    (hy : MadeOf y negative m e) : x = y := by
  have hbits : x.toBits = y.toBits := UInt64.toNat_inj.mp (hx.bits.trans hy.bits.symm)
  obtain ⟨⟨bits, valid⟩⟩ := x
  obtain ⟨⟨bits', valid'⟩⟩ := y
  obtain rfl : bits = bits' := hbits
  rfl

/-! ## Numbers put together -/

theorem unpack_ofBits (bits : UInt64) :
    (Float.ofBits bits).toModel.unpack = ofComponents
      (Sign.ofBitVec (@unpackSign Format.binary64 bits.toBitVec))
      (@unpackExponent Format.binary64 bits.toBitVec)
      (@unpackMantissa Format.binary64 bits.toBitVec) := by
  change (Float.Model.pack (UnpackedFloat.unpack Format.binary64 bits.toBitVec)).unpack = _
  rw [unpack_of_components rfl rfl rfl]
  obtain ⟨hcanonical, hrange⟩ := ofComponents_isCanonical
    (Sign.ofBitVec (@unpackSign Format.binary64 bits.toBitVec))
    (@unpackExponent Format.binary64 bits.toBitVec) (@unpackMantissa Format.binary64 bits.toBitVec)
  exact unpack_pack hcanonical hrange

/-- Bits that are made of a mantissa and an exponent are read as these. -/
theorem ofFloat_ofBits {bits : UInt64} {m : ℕ} {e : ℤ}
    (hbits : bits.toNat = (e + 1074).toNat * 2 ^ 52 + m) (hm : m < 2 ^ 53)
    (he : -1074 ≤ e ∧ e ≤ 971) (hnormal : 2 ^ 52 ≤ m ∨ e = -1074) :
    Reading.ofFloat (Float.ofBits bits) = .finite false m e := by
  have hparts := toNat_eq_components bits.toBitVec
  rw [ofFloat_eq_reading, unpack_ofBits, reading_ofComponents, isNegative_ofBitVec]
  have hs : (@unpackSign Format.binary64 bits.toBitVec).toNat < 2 := BitVec.isLt _
  have hexponent : (@unpackExponent Format.binary64 bits.toBitVec).toNat < 2 ^ 11 := BitVec.isLt _
  have hmantissa : (@unpackMantissa Format.binary64 bits.toBitVec).toNat < 2 ^ 52 := BitVec.isLt _
  generalize (@unpackSign Format.binary64 bits.toBitVec).toNat = s at hparts hs ⊢
  generalize (@unpackExponent Format.binary64 bits.toBitVec).toNat = d at hparts hexponent ⊢
  generalize (@unpackMantissa Format.binary64 bits.toBitVec).toNat = n at hparts hmantissa ⊢
  have hsame : s * 2 ^ 63 + d * 2 ^ 52 + n = (e + 1074).toNat * 2 ^ 52 + m :=
    hparts.symm.trans hbits
  obtain rfl : s = 0 := by omega
  rw [if_neg (by omega)]
  by_cases hsub : d = 0
  · obtain rfl : e = -1074 := by omega
    obtain rfl : n = m := by omega
    rw [if_pos hsub]
    rfl
  · obtain rfl : 2 ^ 52 + n = m := by omega
    obtain rfl : (d : ℤ) - 1075 = e := by omega
    rw [if_neg hsub]
    rfl

/-! ## Forms of finite numbers -/

variable {y : Float} {negative : Bool} {m : ℕ} {e : ℤ} {hm : 0 < m}

theorem unpack_of_ofFloat (h : Reading.ofFloat y = .finite negative m e) (hm : 0 < m) :
    ∃ s, isNegative s = negative ∧ y.toModel.unpack = .finite s m e hm := by
  rw [ofFloat_eq_reading] at h
  cases hu : y.toModel.unpack with
  | notANumber | infinity =>
      rw [hu] at h
      cases h
  | zero s =>
      rw [hu] at h
      cases h
      exact absurd rfl hm.ne
  | finite s n d hn =>
      rw [hu, reading_finite] at h
      injection h with hs hmn hed
      subst hmn hed
      exact ⟨s, hs, rfl⟩

theorem exists_ofFloat_of_pos (hy : y.isFinite = true) (hpos : 0 < real y) :
    ∃ m e, 0 < m ∧ (2 ^ 52 ≤ m ∨ e = -1074) ∧ Reading.ofFloat y = .finite false m e := by
  have hcanonical := (unpack_isCanonical y.toModel).1
  change y.toModel.unpack.isFinite = true at hy
  rw [ofFloat_eq_reading]
  unfold real at hpos
  cases hu : y.toModel.unpack with
  | notANumber | infinity =>
      rw [hu] at hy
      cases hy
  | zero s =>
      rw [hu, value_zero] at hpos
      exact absurd hpos (lt_irrefl 0)
  | finite s n d hn =>
      rw [hu] at hpos hcanonical
      cases s with
      | negative =>
          rw [value_negative] at hpos
          exact absurd hpos (not_lt.mpr (neg_nonpos.mpr (magnitude_pos hn).le))
      | positive => exact ⟨n, d, hn, hcanonical.2.2, rfl⟩

/-- Zero is read with the least exponent. -/
theorem exponent_of_ofFloat_zero (h : Reading.ofFloat y = .finite negative 0 e) : e = -1074 := by
  rw [ofFloat_eq_reading] at h
  cases hu : y.toModel.unpack with
  | notANumber | infinity =>
      rw [hu] at h
      cases h
  | zero s =>
      rw [hu] at h
      injection h with _ _ he
      exact he.symm
  | finite s n d hn =>
      rw [hu, reading_finite] at h
      injection h with _ hmn _
      exact absurd hmn hn.ne'

/-- A positive number is read as the canonical form of its value. -/
theorem ofFloat_of_real (h : IsCanonical (.finite .positive m e hm)) (hy : y.isFinite = true)
    (hreal : real y = m * (2 : ℝ) ^ e) : Reading.ofFloat y = .finite false m e := by
  have hcanonical := (unpack_isCanonical y.toModel).1
  have hpos : (0 : ℝ) < m * (2 : ℝ) ^ e := magnitude_pos hm
  change y.toModel.unpack.isFinite = true at hy
  rw [ofFloat_eq_reading]
  unfold real at hreal
  cases hu : y.toModel.unpack with
  | notANumber | infinity =>
      rw [hu] at hy
      cases hy
  | zero s =>
      rw [hu, value_zero] at hreal
      exact absurd hreal hpos.ne
  | finite s n d hn =>
      rw [hu] at hreal hcanonical
      cases s with
      | negative =>
          rw [value_negative] at hreal
          linarith [magnitude_pos (e := d) hn]
      | positive =>
          rw [value_positive] at hreal
          obtain ⟨hed, hmn⟩ := Ordering.then_eq_eq.mp
            ((compares_magnitude hcanonical h).eq_eq.mpr hreal)
          rw [reading_finite, compare_eq_iff_eq.mp hed, compare_eq_iff_eq.mp hmn]
          rfl

theorem signedReal_of_ofFloat (h : Reading.ofFloat y = .finite negative m e) :
    y.isFinite = true ∧ real y = (if negative then -1 else 1) * (m * (2 : ℝ) ^ e) := by
  rw [ofFloat_eq_reading] at h
  change y.toModel.unpack.isFinite = true ∧ _
  unfold real
  cases hu : y.toModel.unpack with
  | notANumber | infinity =>
      rw [hu] at h
      cases h
  | zero s =>
      rw [hu] at h
      cases s <;> cases h <;> exact ⟨rfl, by simp⟩
  | finite s n d hn =>
      rw [hu, reading_finite] at h
      injection h with hs hmn hed
      subst hs hmn hed
      cases s with
      | negative => exact ⟨rfl, value_negative.trans (neg_one_mul _).symm⟩
      | positive => exact ⟨rfl, value_positive.trans (one_mul _).symm⟩

theorem real_of_ofFloat (h : Reading.ofFloat y = .finite false m e) :
    y.isFinite = true ∧ real y = m * (2 : ℝ) ^ e := by
  simpa using signedReal_of_ofFloat h

/-- The sign of a number is changed and nothing else. -/
theorem ofFloat_neg (h : Reading.ofFloat y = .finite false m e) :
    Reading.ofFloat (-y) = .finite true m e := by
  obtain ⟨hcanonical, hrange⟩ := unpack_isCanonical y.toModel
  have hneg : (-y).toModel.unpack = (Float.Model.pack y.toModel.unpack.neg).unpack := rfl
  rw [ofFloat_eq_reading] at h ⊢
  rw [hneg]
  cases hu : y.toModel.unpack with
  | notANumber | infinity =>
      rw [hu] at h
      cases h
  | zero s =>
      rw [hu] at h
      cases s <;> cases h
      rfl
  | finite s n d hn =>
      rw [hu, reading_finite] at h
      rw [hu] at hcanonical hrange
      injection h with hs hmn hed
      subst hmn hed
      cases s with
      | negative => cases hs
      | positive =>
          exact congrArg reading (unpack_pack (u := .finite .negative n d hn) hcanonical hrange)

end RegexInference.Binary64
