import RegexInference.Proofs.Decimal.Shortest
import RegexInference.Proofs.Decimal.Written
import RegexInference.Proofs.Float.Reading

/-!
# Floating-point numbers that are read back

A document holds the shortest decimal of a number.  Its digits are taken for a whole number and
scaled by a power of ten, which need not give the number itself.  Numbers that are not finite have
no decimal: `null` stands for them, and no reader of numbers takes it.
-/

namespace RegexInference.Decimal

open Json Binary64

variable {x : Float} {negative : Bool} {m : ℕ} {e : ℤ}

theorem toReal_shortest_pos (tie : Tie) (hm : 0 < m) (hlt : m < 2 ^ 53)
    (he : -1074 ≤ e ∧ e ≤ 971) : 0 < (shortest tie m e).toReal := by
  obtain ⟨hback, -⟩ := shortest_spec tie hm hlt he.1 he.2
  have hone : (1 : ℝ) ≤ m := Nat.one_le_cast.mpr hm
  have hgap := (quartersBelow_bounds m e).2
  have hlow : (0 : ℝ) < (m - quartersBelow m e / 4) * 2 ^ e := mul_pos (by linarith) (by positivity)
  exact hlow.trans_le hback.low

theorem moderate_shortest (tie : Tie) (hlt : m < 2 ^ 53) (he : -1074 ≤ e ∧ e ≤ 971) :
    (shortest tie m e).Moderate := by
  rcases Nat.eq_zero_or_pos m with rfl | hm
  · have hzero : shortest tie 0 e = ⟨0, 0⟩ := rfl
    rw [hzero]
    exact ⟨by decide, by decide, fun _ => rfl⟩
  · obtain ⟨-, hdigits, hexponent⟩ := shortest_spec tie hm hlt he.1 he.2
    refine ⟨hdigits.trans_lt (by decide), hexponent, fun hzero => ?_⟩
    have hpos := toReal_shortest_pos tie hm hlt he
    rw [Scaled.toReal, hzero, Nat.cast_zero, zero_mul] at hpos
    exact absurd hpos (lt_irrefl 0)

/-- What a reader finds where a number has been written. -/
def reread (x : Float) : Except Error Float :=
  match Reading.ofFloat x with
  | .finite negative mantissa exponent =>
    let s := (shortest .even mantissa exponent).asRead
    match scaleByTen 8 s.digits.toUInt64.toFloat s.exponent with
    | some y => .ok (withSign negative y)
    | none => .error (.malformed .numberOutOfRange)
  | _ => .error (.mismatch (.wrongType .null "f64"))

/-- Nothing is read where an infinity or no number at all has been written. -/
theorem reread_of_not_isFinite (hx : x.isFinite = false) :
    reread x = .error (.mismatch (.wrongType .null "f64")) := by
  change x.toModel.unpack.isFinite = false at hx
  unfold reread
  rw [ofFloat_eq_reading]
  cases hu : x.toModel.unpack with
  | notANumber | infinity => rfl
  | zero | finite =>
      rw [hu] at hx
      cases hx

end RegexInference.Decimal

namespace RegexInference.Json.Reader

open Decimal Binary64

variable {gap : List Char} (hgap : Blanks gap) (depth : ℕ)
include hgap

theorem number_refuses_null {α : Type} (expected : String) (convert : Number → Except Mismatch α) :
    (Reader.number expected convert).Takes depth (gap ++ Value.null.compact)
      (.error (.mismatch (.wrongType .null expected))) := by
  intro rest _
  have hword : Value.null.compact ++ rest = 'n' :: ("ull".toList ++ rest) := rfl
  have hnull : wrongType (α := α × List Char) expected ('n' :: ("ull".toList ++ rest)) =
      .error (.mismatch (.wrongType .null expected)) := by
    simp only [wrongType, scanWord_append]
    rfl
  unfold Reader.number
  rw [List.append_assoc, skipBlanks_append hgap, hword, skipBlanks_cons (by decide)]
  exact hnull

theorem float_takes (x : Float) :
    Reader.float.Takes depth (gap ++ (Value.float x).compact) (reread x) := by
  unfold reread
  rw [Value.compact, Layout.write]
  cases hx : Reading.ofFloat x with
  | nan => exact number_refuses_null hgap depth "f64" _
  | infinite negative => cases negative <;> exact number_refuses_null hgap depth "f64" _
  | finite negative m e =>
      have hparts := madeOf_of_ofFloat hx
      have hmoderate := moderate_shortest .even hparts.mantissa hparts.exponent
      have hread := Scaled.readAs_text hmoderate
      have htext : (String.ofList
          (if negative then '-' :: Layout.document.writeScaled (shortest .even m e)
            else Layout.document.writeScaled (shortest .even m e))).toList =
          (shortest .even m e).text.signed negative := by
        rw [String.toList_ofList, Scaled.writeScaled_document]
        rfl
      dsimp only
      have hlayout : Layout.document.tie = .even := rfl
      rw [hlayout, htext]
      have hvalue := NumberText.value?_float negative _ hread.kind
        (hread.digits ▸ Scaled.digits_asRead_lt hmoderate) hread.exponent
      have htakes : Reader.float.Takes depth (gap ++ (shortest .even m e).text.signed negative) _ :=
        number_takes hgap depth hread.wellFormed negative "f64" _
      rw [hread.digits, hread.power] at hvalue
      rw [NumberText.converted, hvalue] at htakes
      cases hscaled : scaleByTen 8 (shortest .even m e).asRead.digits.toUInt64.toFloat
          (shortest .even m e).asRead.exponent <;> rw [hscaled] at htakes <;> exact htakes

end RegexInference.Json.Reader
