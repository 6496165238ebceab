import RegexInference.Random.Source

/-!
# Mutation operators and how they are drawn

The four edits and their weights.  The weights divide a wheel into sections.  A spin places a random
number among their running sums and takes the operator of the section it falls into.
-/

namespace RegexInference

inductive Operator where
  | insert
  | delete
  /-- Exchange an element for another one of its kind. -/
  | replace
  | duplicate
  deriving DecidableEq, Repr

structure Weights where
  insert : Float := 0.15
  delete : Float := 0.25
  replace : Float := 0.55
  duplicate : Float := 0.05
  deriving BEq

namespace Weights

def toList (w : Weights) : List Float := [w.insert, w.delete, w.replace, w.duplicate]

/-- The sum in order, starting from negative zero. -/
def sum (w : Weights) : Float := w.toList.foldl (· + ·) (-0.0)

end Weights

/-- Why weights make no wheel. -/
inductive WheelError where
  | invalidWeight
  | allZero
  /-- The weights sum to infinity. -/
  | overflow
  deriving DecidableEq, Repr

/-- The running sums of the weights before the last one, and the width of the whole. -/
structure OperatorWheel where
  first : Float
  second : Float
  third : Float
  scale : Float

namespace OperatorWheel

/-- The largest fraction that a spin can draw, 1 - 2⁻⁵². -/
def maxFraction : Float := 1.0 - 1.0 / 4503599627370496.0

/-- The next smaller number of a positive one. -/
def nextBelow (x : Float) : Float := Float.ofBits (x.toBits - 1)

/-- The factor that takes fractions to numbers below `total`.  A total too small for the product
to stay below it gives way to the number before it. -/
def scaleFor (total : Float) : Float :=
  if total * maxFraction ≥ total then nextBelow total else total

def ofWeights (w : Weights) : Except WheelError OperatorWheel :=
  if w.toList.all (· ≥ 0.0) then
    let first := w.insert
    let second := first + w.delete
    let third := second + w.replace
    let total := third + w.duplicate
    if total == 0.0 then .error .allZero
    else if total.isFinite then .ok { first, second, third, scale := scaleFor total }
    else .error .overflow
  else .error .invalidWeight

/-- The number in `[0, 1)` that the upper 52 bits of a word make. -/
def fraction (word : UInt64) : Float := (word >>> 12).toFloat / 4503599627370496.0

/-- The operator that a word points at: as many running sums as do not exceed the number drawn are
passed over. -/
def pick (wheel : OperatorWheel) (word : UInt64) : Operator :=
  let x := fraction word * wheel.scale
  match ([wheel.first, wheel.second, wheel.third].filter (· ≤ x)).length with
  | 0 => .insert
  | 1 => .delete
  | 2 => .replace
  | _ => .duplicate

def spin {σ : Type} [Random.Source σ] (wheel : OperatorWheel) : Random.Draw σ Operator :=
  wheel.pick <$> Random.word64

end OperatorWheel

end RegexInference
