import RegexInference.Regex.Look
import RegexInference.Unicode.CharSet

/-!
# Regular expressions

The meaning of a pattern once its text has been read: flags are resolved, groups are gone, and
every character, shorthand and bracket class has become a set of characters.
-/

namespace RegexInference

/-- What a class counts: characters, or bytes where the Unicode flag is off. -/
inductive Regex.ClassUnit where
  | character
  | byte
  deriving DecidableEq

/-- A regular expression over sets of characters. -/
inductive Regex where
  | empty
  /-- One character out of a set.  A class of bytes holds ASCII characters only. -/
  | chars (set : Unicode.CodeSet) (unit : Regex.ClassUnit)
  /-- An assertion about the current place. -/
  | look (look : Regex.Look)
  | seq (r s : Regex)
  /-- Either of two; `r` is preferred. -/
  | alt (r s : Regex)
  /-- Between `min` and `max` rounds, without an upper bound when `max` is `none`; a greedy
  repetition prefers another round, a lazy one prefers to stop. -/
  | rounds (r : Regex) (min : Nat) (max : Option Nat) (greedy : Bool)
  /-- A capturing group.  It matches what `r` matches, and is like no other group. -/
  | group (r : Regex)

namespace Regex

/-- The expression has no place for a character: it is built from assertions and nothing else. -/
def isEmptyOnly : Regex → Bool
  | empty => true
  | chars _ _ => false
  | look _ => true
  | seq r s => r.isEmptyOnly && s.isEmptyOnly
  | alt r s => r.isEmptyOnly && s.isEmptyOnly
  | rounds r _ _ _ => r.isEmptyOnly
  | group r => r.isEmptyOnly

/-- A bound from below on the number of characters in a match, `none` where some part cannot match
at all. -/
def minLength? : Regex → Option Nat
  | empty => some 0
  | chars set _ => if set.isEmpty then none else some 1
  | look _ => some 0
  | seq r s => do return (← r.minLength?) + (← s.minLength?)
  | alt r s => do return Nat.min (← r.minLength?) (← s.minLength?)
  | rounds r min _ _ => r.minLength?.map (min * ·)
  | group r => r.minLength?

/-- Whether every match is known to take at least one character. -/
def alwaysAdvances (r : Regex) : Bool := r.minLength?.any (0 < ·)

/-- A repetition in its simplest form.  A second round of an expression that has no place for a
character adds nothing to the first one. -/
def repeated (r : Regex) (min : Nat) (max : Option Nat) (greedy : Bool) : Regex :=
  let (min, max) :=
    if r.isEmptyOnly then (Nat.min min 1, some (Nat.min (max.getD 1) 1)) else (min, max)
  if max = some 0 then empty
  else if min = 1 ∧ max = some 1 then r
  else rounds r min max greedy

end Regex

end RegexInference
