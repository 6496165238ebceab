import Mathlib.Data.EReal.Basic
import Mathlib.Tactic.Linarith
import Mathlib.Tactic.Positivity
import Mathlib.Tactic.NormNum
import Mathlib.Tactic.Ring

/-!
# The value of a floating-point number

A number is unpacked into a sign, a whole mantissa and an exponent of two.  The unpacked form is
canonical: the mantissa fills its 53 bits unless the exponent is the least one.  A canonical form
survives packing, unless its exponent is too large; then it becomes infinite.
-/

namespace RegexInference.Binary64

open Float.Model Float.Model.UnpackedFloat

/-- The mantissa has at most 53 bits, and fewer only at the least exponent. -/
def IsCanonical : UnpackedFloat → Prop
  | .finite _ m e _ => m < 2 ^ 53 ∧ -1074 ≤ e ∧ (2 ^ 52 ≤ m ∨ e = -1074)
  | _ => True

/-- The exponent is one that can be packed. -/
def InRange : UnpackedFloat → Prop
  | .finite _ _ e _ => e ≤ 971
  | _ => True

/-- The number that a finite form stands for. -/
noncomputable def value : UnpackedFloat → ℝ
  | .finite s m e _ => (s.apply m : ℤ) * (2 : ℝ) ^ e
  | _ => 0

@[simp] theorem value_zero (s : Sign) : value (.zero s) = 0 := rfl

theorem value_finite (s : Sign) (m : ℕ) (e : ℤ) (hm : 0 < m) :
    value (.finite s m e hm) = (s.apply m : ℤ) * (2 : ℝ) ^ e := rfl

/-- A number with a mantissa of 53 bits and an exponent that is not too small. -/
def Representable (x : ℝ) : Prop :=
  ∃ (m : ℕ) (e : ℤ), m < 2 ^ 53 ∧ -1074 ≤ e ∧ |x| = m * (2 : ℝ) ^ e

/-- From here on results are rounded to infinity. -/
def limit : ℝ := 2 ^ 1024 - 2 ^ 970

/-! ## Unpacking -/

theorem append_implicit_toNat (v : BitVec 52) : (1#1 ++ v).toNat = 2 ^ 52 + v.toNat := by
  rw [BitVec.toNat_append, ← Nat.shiftLeft_add_eq_or_of_lt v.isLt]
  rfl

theorem append_implicit_pos (v : BitVec 52) : 0 < (1#1 ++ v).toNat := by
  rw [append_implicit_toNat]
  positivity

theorem toNat_pos_of_ne_zero {v : BitVec 52} (h : v ≠ 0#52) : 0 < v.toNat := by
  rw [Nat.pos_iff_ne_zero]
  exact fun hzero => h (BitVec.eq_of_toNat_eq hzero)

/-- What the three components of a packed number stand for. -/
def ofComponents (s : Sign) (e : BitVec 11) (m : BitVec 52) : UnpackedFloat :=
  if e = -1#11 then (if m = 0#52 then .infinity s else .notANumber)
  else if e = 0#11 then
    if h : m = 0#52 then .zero s
    else .finite s m.toNat (e.toNat - 1075 + 1) (toNat_pos_of_ne_zero h)
  else .finite s (1#1 ++ m).toNat (e.toNat - 1075) (append_implicit_pos m)

theorem unpack_of_components {b : BitVec 64} {s : Sign} {e : BitVec 11} {m : BitVec 52}
    (hs : Sign.ofBitVec (@unpackSign Format.binary64 b) = s)
    (he : @unpackExponent Format.binary64 b = e) (hm : @unpackMantissa Format.binary64 b = m) :
    UnpackedFloat.unpack Format.binary64 b = ofComponents s e m := by
  subst hs he hm
  rfl

theorem ofComponents_eq_infinity {s t : Sign} {e : BitVec 11} {m : BitVec 52}
    (h : ofComponents s e m = .infinity t) : s = t ∧ e = -1#11 ∧ m = 0#52 := by
  unfold ofComponents at h
  by_cases hexponent : e = -1#11
  · rw [if_pos hexponent] at h
    by_cases hmantissa : m = 0#52
    · rw [if_pos hmantissa] at h
      exact ⟨UnpackedFloat.infinity.inj h, hexponent, hmantissa⟩
    · rw [if_neg hmantissa] at h
      cases h
  · rw [if_neg hexponent] at h
    by_cases hsubnormal : e = 0#11
    · rw [if_pos hsubnormal] at h
      by_cases hmantissa : m = 0#52
      · rw [dif_pos hmantissa] at h
        cases h
      · rw [dif_neg hmantissa] at h
        cases h
    · rw [if_neg hsubnormal] at h
      cases h

/-- A packed number is made of its components and nothing else. -/
theorem toNat_eq_components (b : BitVec 64) :
    b.toNat = (@unpackSign Format.binary64 b).toNat * 2 ^ 63 +
      (@unpackExponent Format.binary64 b).toNat * 2 ^ 52 +
      (@unpackMantissa Format.binary64 b).toNat := by
  have hsign : (@unpackSign Format.binary64 b).toNat = b.toNat / 2 ^ 63 % 2 ^ 1 := by
    change (BitVec.extractLsb 63 63 b).toNat = _
    rw [BitVec.extractLsb_toNat, Nat.shiftRight_eq_div_pow]
  have hexponent : (@unpackExponent Format.binary64 b).toNat = b.toNat / 2 ^ 52 % 2 ^ 11 := by
    change (BitVec.extractLsb 62 52 b).toNat = _
    rw [BitVec.extractLsb_toNat, Nat.shiftRight_eq_div_pow]
  have hmantissa : (@unpackMantissa Format.binary64 b).toNat = b.toNat % 2 ^ 52 := by
    change (BitVec.extractLsb 51 0 b).toNat = _
    rw [BitVec.extractLsb_toNat, Nat.shiftRight_zero]
  have hb : b.toNat < 2 ^ 64 := b.isLt
  rw [hsign, hexponent, hmantissa]
  omega

theorem ofComponents_isCanonical (s : Sign) (e : BitVec 11) (m : BitVec 52) :
    IsCanonical (ofComponents s e m) ∧ InRange (ofComponents s e m) := by
  have hm : m.toNat < 2 ^ 52 := m.isLt
  have he : e.toNat < 2 ^ 11 := e.isLt
  unfold ofComponents
  by_cases hinf : e = -1#11
  · rw [if_pos hinf]
    by_cases hzero : m = 0#52
    · rw [if_pos hzero]
      exact ⟨trivial, trivial⟩
    · rw [if_neg hzero]
      exact ⟨trivial, trivial⟩
  · rw [if_neg hinf]
    have hfull : e.toNat ≠ 2047 := fun h => hinf (BitVec.eq_of_toNat_eq h)
    by_cases hsub : e = 0#11
    · rw [if_pos hsub]
      have hexponent : e.toNat = 0 := congrArg BitVec.toNat hsub
      by_cases hzero : m = 0#52
      · rw [dif_pos hzero]
        exact ⟨trivial, trivial⟩
      · rw [dif_neg hzero]
        exact ⟨⟨by omega, by omega, by omega⟩, (by omega : (e.toNat : ℤ) - 1075 + 1 ≤ 971)⟩
    · rw [if_neg hsub]
      have hnonzero : e.toNat ≠ 0 := fun h => hsub (BitVec.eq_of_toNat_eq h)
      have hmantissa := append_implicit_toNat m
      exact ⟨⟨by omega, by omega, by omega⟩, (by omega : (e.toNat : ℤ) - 1075 ≤ 971)⟩

theorem unpack_isCanonical (f : Float.Model) : IsCanonical f.unpack ∧ InRange f.unpack := by
  unfold Float.Model.unpack
  rw [unpack_of_components rfl rfl rfl]
  exact ofComponents_isCanonical _ _ _

/-! ## Packing -/

@[simp] theorem unpackSign_packComponents (format : Format) (s : Sign)
    (e : BitVec format.exponentBits) (m : BitVec format.mantissaBitsWithoutImplicit) :
    unpackSign (packComponents format s e m) = s.toBitVec := by
  apply BitVec.eq_of_getLsbD_eq
  intro i hi
  obtain rfl : i = 0 := by omega
  unfold unpackSign packComponents
  simp [BitVec.getLsbD_append, BitVec.getElem_append]

@[simp] theorem ofBitVec_toBitVec (s : Sign) : Sign.ofBitVec s.toBitVec = s := by
  cases s <;> rfl

theorem unpack_packComponents (s : Sign) (e : BitVec 11) (m : BitVec 52) :
    UnpackedFloat.unpack Format.binary64 (packComponents Format.binary64 s e m) =
      ofComponents s e m := by
  refine unpack_of_components ?_ unpackExponent_packComponents unpackMantissa_packComponents
  rw [unpackSign_packComponents, ofBitVec_toBitVec]

theorem finite_congr {s : Sign} {m n : ℕ} {e d : ℤ} {hm : 0 < m} {hn : 0 < n} (hmn : m = n)
    (hed : e = d) : UnpackedFloat.finite s m e hm = .finite s n d hn := by
  subst hmn hed
  rfl

theorem pack_finite (s : Sign) (m : ℕ) (e : ℤ) (hm : 0 < m) :
    UnpackedFloat.pack Format.binary64 (.finite s m e hm) =
      if 2 ^ 11 ≤ (e + 1023 + 52).toNat + 1 then packedInfinity Format.binary64 s
      else if m.log2 + 1 = 53 then
        packComponents Format.binary64 s (BitVec.ofNat 11 (e + 1023 + 52).toNat) (BitVec.ofNat 52 m)
      else packComponents Format.binary64 s 0#11 (BitVec.ofNat 52 m) :=
  rfl

/-- Packing loses nothing of a canonical form whose exponent is in range. -/
theorem unpack_pack {u : UnpackedFloat} (hc : IsCanonical u) (hr : InRange u) :
    (Float.Model.pack u).unpack = u := by
  change UnpackedFloat.unpack Format.binary64 (UnpackedFloat.pack Format.binary64 u) = u
  cases u with
  | notANumber => rfl
  | infinity s => cases s <;> rfl
  | zero s => cases s <;> rfl
  | finite s m e hm =>
      obtain ⟨hlt, hle, hnormal⟩ := hc
      have hr : e ≤ 971 := hr
      rw [pack_finite]
      generalize hb : (e + 1023 + 52).toNat = b
      have hbe : (b : ℤ) = e + 1075 := by omega
      have hsmall : ¬ 2 ^ 11 ≤ b + 1 := by omega
      have hbN : (BitVec.ofNat 11 b).toNat = b := by
        rw [BitVec.toNat_ofNat, Nat.mod_eq_of_lt (by omega)]
      have hbfull : BitVec.ofNat 11 b ≠ -1#11 := by
        intro h
        have := congrArg BitVec.toNat h
        rw [hbN] at this
        change b = 2047 at this
        omega
      have hbzero : BitVec.ofNat 11 b ≠ 0#11 := by
        intro h
        have := congrArg BitVec.toNat h
        rw [hbN] at this
        change b = 0 at this
        omega
      rw [if_neg hsmall]
      by_cases hn : 2 ^ 52 ≤ m
      · have hlog : m.log2 + 1 = 53 := by
          rw [(Nat.log2_eq_iff (by omega)).mpr ⟨hn, hlt⟩]
        have hmod : (BitVec.ofNat 52 m).toNat = m - 2 ^ 52 := by
          rw [BitVec.toNat_ofNat]
          omega
        rw [if_pos hlog, unpack_packComponents, ofComponents, if_neg hbfull, if_neg hbzero]
        have hmantissa : 2 ^ 52 + (m - 2 ^ 52) = m := by omega
        have hexponent : e + 1075 - 1075 = e := by omega
        apply finite_congr
        · rw [append_implicit_toNat, hmod, hmantissa]
        · rw [hbN, hbe, hexponent]
      · have hlog : ¬ m.log2 + 1 = 53 := by
          have := (Nat.log2_lt (by omega)).mpr (not_le.mp hn)
          omega
        have hmod : (BitVec.ofNat 52 m).toNat = m := by
          rw [BitVec.toNat_ofNat, Nat.mod_eq_of_lt (not_le.mp hn)]
        have hmzero : BitVec.ofNat 52 m ≠ 0#52 := by
          intro h
          have := congrArg BitVec.toNat h
          rw [hmod] at this
          change m = 0 at this
          omega
        obtain rfl : e = -1074 := hnormal.resolve_left hn
        rw [if_neg hlog, unpack_packComponents, ofComponents, if_neg (by decide), if_pos rfl,
          dif_neg hmzero]
        exact finite_congr hmod rfl

/-- A canonical form whose exponent is too large is packed as infinite. -/
theorem unpack_pack_of_not_inRange {s : Sign} {m : ℕ} {e : ℤ} {hm : 0 < m} (he : 971 < e) :
    (Float.Model.pack (.finite s m e hm)).unpack = .infinity s := by
  change UnpackedFloat.unpack Format.binary64 (UnpackedFloat.pack Format.binary64 _) = _
  rw [pack_finite, if_pos (by omega)]
  cases s <;> rfl

end RegexInference.Binary64
