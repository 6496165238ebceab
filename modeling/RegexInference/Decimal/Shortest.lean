/-!
# Shortest decimals

A floating-point number stands for all reals that round to it.  Its shortest decimal is the one with
the fewest digits among them, and of several the nearest to the number itself.
-/

namespace RegexInference.Decimal

/-- What the bits of a floating-point number say. -/
inductive Reading where
  | nan
  | infinite (negative : Bool)
  /-- The number `mantissa * 2 ^ exponent`, with its sign. -/
  | finite (negative : Bool) (mantissa : Nat) (exponent : Int)

/-- Takes a floating-point number apart. -/
def Reading.ofFloat (x : Float) : Reading :=
  let bits : Nat := x.toBits.toNat
  let negative := bits >>> 63 == 1
  let biased : Nat := (bits >>> 52) % 0x800
  let fraction : Nat := bits % 0x10000000000000
  if biased = 2047 then (if fraction = 0 then infinite negative else nan)
  else if biased = 0 then finite negative fraction (-1074)
  else finite negative (0x10000000000000 + fraction) ((biased : Int) - 1075)

/-- The decimal number `digits * 10 ^ exponent`. -/
structure Scaled where
  digits : Nat
  exponent : Int
  deriving DecidableEq, Repr

/-- Moves zeros at the end of the digits into the exponent. -/
def Scaled.trim : (fuel : Nat) → Scaled → Scaled
  | 0, s => s
  | fuel + 1, s =>
    if s.digits ≠ 0 ∧ s.digits % 10 = 0 then trim fuel ⟨s.digits / 10, s.exponent + 1⟩ else s

/-- Which of two decimals at equal distance is taken. -/
inductive Tie where
  | up
  | even

/-- A positive number with the interval of reals that round to it, as fractions with one
denominator. -/
structure Interval where
  low : Nat
  value : Nat
  high : Nat
  denominator : Nat
  /-- The ends belong to the interval. -/
  closed : Bool

namespace Interval

/-- The interval of `mantissa * 2 ^ exponent`.  Below a power of two the neighbour is only half as
far away. -/
def ofBinary (mantissa : Nat) (exponent : Int) : Interval :=
  let scale := 1 <<< (exponent - 2).toNat
  let gap := if mantissa = 0x10000000000000 ∧ exponent > -1074 then 1 else 2
  { low := (4 * mantissa - gap) * scale
    value := 4 * mantissa * scale
    high := (4 * mantissa + 2) * scale
    denominator := 1 <<< (2 - exponent).toNat
    closed := mantissa % 2 == 0 }

/-- The interval in units of `10 ^ k`. -/
def inUnits (i : Interval) (k : Int) : Interval :=
  let up := Nat.pow 10 (-k).toNat
  { low := i.low * up
    value := i.value * up
    high := i.high * up
    denominator := i.denominator * Nat.pow 10 k.toNat
    closed := i.closed }

/-- Whether a whole number lies in the interval. -/
def contains (i : Interval) (n : Nat) : Bool :=
  let x := n * i.denominator
  if i.closed then i.low ≤ x && x ≤ i.high else i.low < x && x < i.high

/-- The whole number next to the value that lies in the interval, if one does; the nearer one of
two. -/
def whole? (i : Interval) (tie : Tie) : Option Nat :=
  let below := i.value / i.denominator
  let above := below + 1
  match i.contains below, i.contains above with
  | false, false => none
  | true, false => some below
  | false, true => some above
  | true, true =>
    let toBelow := i.value - below * i.denominator
    let toAbove := above * i.denominator - i.value
    if toBelow < toAbove then some below
    else if toAbove < toBelow then some above
    else
      match tie with
      | .up => some above
      | .even => some (if below % 2 = 0 then below else above)

/-- The largest `k ≥ from` with `10 ^ k` at most the value, when no more than `fuel` steps away. -/
def leadingPower (i : Interval) : (fuel : Nat) → Int → Int
  | 0, k => k
  | fuel + 1, k =>
    let units := i.inUnits (k + 1)
    if units.denominator ≤ units.value then i.leadingPower fuel (k + 1) else k

/-- Tries 1, 2, … digits until a decimal lies in the interval. -/
def shortestFrom (i : Interval) (tie : Tie) : (fuel : Nat) → (unit : Int) → Scaled
  | 0, unit => ⟨(i.inUnits unit).value / (i.inUnits unit).denominator, unit⟩
  | fuel + 1, unit =>
    match (i.inUnits unit).whole? tie with
    | some n => Scaled.trim 20 ⟨n, unit⟩
    | none => i.shortestFrom tie fuel (unit - 1)

end Interval

/-- The shortest decimal of `mantissa * 2 ^ exponent`. -/
def shortest (tie : Tie) (mantissa : Nat) (exponent : Int) : Scaled :=
  if mantissa = 0 then ⟨0, 0⟩
  else
    let i := Interval.ofBinary mantissa exponent
    let bits : Int := (mantissa.log2 : Int) + exponent
    let k := i.leadingPower 4 (bits * 30103 / 100000 - 2)
    i.shortestFrom tie 17 k

end RegexInference.Decimal
