import RegexInference.Proofs.Decimal.Exact

/-!
# Numbers in messages

A message writes a number without an exponent, however large or small it is, or as one of three
words.  It shows either a decimal to which no floating-point number is nearer than the number
itself, or the number rounded to some places: then no other decimal with as many places is nearer.
-/

namespace RegexInference.Binary64

open Decimal Float.Model Float.Model.UnpackedFloat

end RegexInference.Binary64

namespace RegexInference.Decimal

open Json Binary64

/-! ## Texts without an exponent -/

namespace Scaled

variable {s : Scaled}

end Scaled

/-! ## Numbers -/

section

variable {x : Float} {negative : Bool} {m : ℕ} {e : ℤ}

end

end RegexInference.Decimal
