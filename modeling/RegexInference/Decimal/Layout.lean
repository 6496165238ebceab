import RegexInference.Decimal.Shortest

/-!
# Writing decimals

The two ways in which a number is written out: by its shortest decimal, or rounded to a fixed number
of places.  A layout says where the point stands, when an exponent is used, and what marks a whole
number.
-/

namespace RegexInference.Decimal

/-- How shortest decimals are written. -/
structure Layout where
  tie : Tie
  /-- A whole number gets `.0`. -/
  markWhole : Bool
  /-- The least and greatest power of ten of the leading digit that is written without an exponent,
  if there are such bounds. -/
  plainPowers : Option (Int × Int)
  nan : String
  infinity : String
  negativeInfinity : String

/-- Numbers in messages: every digit is written out. -/
def Layout.message : Layout :=
  { tie := .up, markWhole := false, plainPowers := none, nan := "NaN", infinity := "inf",
    negativeInfinity := "-inf" }

/-- Numbers in documents: very large and very small ones get an exponent. -/
def Layout.document : Layout :=
  { tie := .even, markWhole := true, plainPowers := some (-5, 15), nan := "null",
    infinity := "null", negativeInfinity := "null" }

/-- A decimal without an exponent. -/
def Scaled.plain (markWhole : Bool) (s : Scaled) : List Char :=
  let ds := Nat.toDigits 10 s.digits
  if s.exponent ≥ 0 then
    ds ++ List.replicate s.exponent.toNat '0' ++ (if markWhole then ['.', '0'] else [])
  else
    let places := (-s.exponent).toNat
    let padded := List.replicate (places + 1 - ds.length) '0' ++ ds
    padded.take (padded.length - places) ++ '.' :: padded.drop (padded.length - places)

/-- A decimal with one digit before the point and an exponent. -/
def Scaled.scientific (s : Scaled) : List Char :=
  match Nat.toDigits 10 s.digits with
  | [] => []
  | first :: others =>
    let power := s.exponent + others.length
    let point := if others.isEmpty then [] else '.' :: others
    first :: point ++ 'e' :: (if power < 0 then '-' else '+') :: Nat.toDigits 10 power.natAbs

/-- The power of ten of the leading digit. -/
def Scaled.leadingPower (s : Scaled) : Int :=
  s.exponent + ((Nat.toDigits 10 s.digits).length - 1 : Nat)

namespace Layout

/-- The digits of a decimal in this layout. -/
def writeScaled (layout : Layout) (s : Scaled) : List Char :=
  match layout.plainPowers with
  | none => s.plain layout.markWhole
  | some (low, high) =>
    if s.digits = 0 ∨ (low ≤ s.leadingPower ∧ s.leadingPower ≤ high) then
      s.plain layout.markWhole
    else s.scientific

def write (layout : Layout) (x : Float) : String :=
  match Reading.ofFloat x with
  | .nan => layout.nan
  | .infinite negative => if negative then layout.negativeInfinity else layout.infinity
  | .finite negative mantissa exponent =>
    let digits := layout.writeScaled (shortest layout.tie mantissa exponent)
    String.ofList (if negative then '-' :: digits else digits)

end Layout

/-- A quotient rounded to the nearest whole number, a half to the even neighbour. -/
def roundedQuotient (n d : Nat) : Nat :=
  let q := n / d
  let r := n % d
  if 2 * r < d ∨ (2 * r = d ∧ q % 2 = 0) then q else q + 1

/-- A number rounded to a fixed number of places. -/
def fixed (places : Nat) (x : Float) : String :=
  match Reading.ofFloat x with
  | .nan => "NaN"
  | .infinite negative => if negative then "-inf" else "inf"
  | .finite negative mantissa exponent =>
    let units := roundedQuotient (mantissa <<< exponent.toNat * Nat.pow 10 places)
      (1 <<< (-exponent).toNat)
    let digits := Scaled.plain false ⟨units, -(places : Int)⟩
    String.ofList (if negative then '-' :: digits else digits)

end RegexInference.Decimal
