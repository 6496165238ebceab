/-!
# Random sources and draws

A random source yields 32-bit words.  Everything that is left to chance is drawn from such words,
and every draw returns the source behind the words that it took.  What is proved for all sources
holds whatever values chance yields.
-/

namespace RegexInference.Random

/-- A source of 32-bit words. -/
class Source (σ : Type) where
  /-- The next word, and the source behind it. -/
  word : σ → UInt32 × σ

/-- A value drawn from a source. -/
abbrev Draw (σ α : Type) := StateM σ α

variable {σ : Type} [Source σ]

def word32 : Draw σ UInt32 := fun s => Source.word s

def word64 : Draw σ UInt64 := do
  let low ← word32
  let high ← word32
  return high.toUInt64 <<< 32 ||| low.toUInt64

/-- The largest low half of a product with which a draw below `n` is even-handed, for words of
`bits` bits: `n` shifted up to its full width, less one. -/
def acceptedBelow (bits n : Nat) : Nat :=
  n <<< (bits - 1 - n.log2) - 1

/-- Scales words of `bits` bits down to numbers below `n` by taking the high half of a product.
Words whose low half is too large would favour some numbers and are drawn again.  More than half
of all words are accepted, and the last of the tries counts in any case. -/
def scaleBelow (word : Draw σ Nat) (bits n : Nat) : (tries : Nat) → Draw σ Nat
  | 0 => do
    let v ← word
    return (v * n) >>> bits
  | tries + 1 => do
    let v ← word
    if v * n % (1 <<< bits) ≤ acceptedBelow bits n then return (v * n) >>> bits
    else scaleBelow word bits n tries

/-- How often a draw below a bound is repeated at most. -/
def maxTries : Nat := 256

/-- A number below `n`, drawn from 64-bit words; a range of 2^64 numbers takes the word itself. -/
def below (n : Nat) : Draw σ Nat :=
  let word : Draw σ Nat := UInt64.toNat <$> word64
  if n < UInt64.size then scaleBelow word 64 n maxTries else word

def between (low high : Nat) : Draw σ Nat := do
  let offset ← below (high - low + 1)
  return low + offset

/-- An index into a list of `n` members, drawn from 32-bit words. -/
def indexBelow (n : Nat) : Draw σ Nat :=
  scaleBelow (UInt32.toNat <$> word32) 32 n maxTries

/-- A member of a list.  Nothing is drawn from an empty list. -/
def choose {α : Type} (xs : List α) : Draw σ (Option α) :=
  match xs with
  | [] => return none
  | _ => do
    let i ← indexBelow xs.length
    return xs[i]?

/-- A member that differs from `current` when there is a current value and the list has several
members, one of them different; any member otherwise. -/
def chooseOther {α : Type} [DecidableEq α] (xs : List α) (current : Option α) :
    Draw σ (Option α) :=
  match current with
  | none => choose xs
  | some x =>
    let others := xs.filter (· ≠ x)
    if xs.length > 1 ∧ others ≠ [] then choose others else choose xs

end RegexInference.Random
