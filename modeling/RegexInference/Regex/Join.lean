import RegexInference.Regex.Basic

/-!
# Joining expressions

Expressions are joined one after the other or as alternatives, and brought into a simple form on
the way: a concatenation holds no concatenation in first place and no empty part, and an
alternative is no alternation itself.

Alternatives that all begin with the same parts give these up to a common beginning, behind which
only the rest is left to choose from.  This keeps the language and settles the preference: the
common beginning is tried in its own order first, and the alternatives for each way it matches.
-/

namespace RegexInference.Regex

open Unicode (CodeSet)

/-! ## Concatenation -/

/-- The parts of a concatenation, of which none is a concatenation or empty. -/
def factors : Regex → List Regex
  | empty => []
  | seq r s => r.factors ++ s.factors
  | r => [r]

/-- Parts one after the other. -/
def chain : List Regex → Regex
  | [] => empty
  | [r] => r
  | r :: rest => seq r (chain rest)

/-- The members of a list one after the other. -/
def seqAll (rs : List Regex) : Regex := chain (rs.flatMap factors)

/-! ## Comparison -/

/-- Whether two expressions are alike in all that matters to a match.  A class of characters and a
class of bytes differ; a single character and the class without members are the same in both. -/
def same : Regex → Regex → Bool
  | empty, empty => true
  | chars s unit, chars t unit' => s == t && (unit == unit' || s.isEmpty || s.only?.isSome)
  | look l, look m => l == m
  | seq r s, seq r' s' => r.same r' && s.same s'
  | alt r s, alt r' s' => r.same r' && s.same s'
  | rounds r min max greedy, rounds r' min' max' greedy' =>
    min == min' && max == max' && greedy == greedy' && r.same r'
  | _, _ => false

/-- Whether two lists are alike member by member. -/
def sameAll : List Regex → List Regex → Bool
  | [], [] => true
  | r :: rs, s :: ss => r.same s && sameAll rs ss
  | _, _ => false

/-! ## Alternation -/

/-- The alternatives of an alternation. -/
def branches : Regex → List Regex
  | alt r s => r.branches ++ s.branches
  | r => [r]

/-- The only character that an expression matches. -/
def letter? : Regex → Option Char
  | chars s _ => s.only?
  | _ => none

/-- The set of an expression for one character out of several. -/
def class? : Regex → Option CodeSet
  | chars s _ => if s.only?.isSome then none else some s
  | _ => none

/-- One set for alternatives that are all letters, or all classes. -/
def merged? (rs : List Regex) : Option CodeSet :=
  if rs.all fun r => r.letter?.isSome then
    some (CodeSet.unionAll (rs.filterMap fun r => r.letter?.map CodeSet.ofChar))
  else (rs.mapM class?).map CodeSet.unionAll

/-- The alternatives as they are, the first one preferred. -/
def choose : List Regex → Regex
  | [] => chars .empty .byte
  | [r] => r
  | r :: rest => alt r (choose rest)

/-- Alternatives as one set if they can be merged, as they are otherwise. -/
def chooseOrMerge (rs : List Regex) : Regex :=
  match rs with
  | _ :: _ :: _ =>
    match merged? rs with
    | some set => chars set .character
    | none => choose rs
  | _ => choose rs

/-- Takes letters in a row together as one part; every other factor is a part of its own. -/
def parts : List Regex → List (List Regex)
  | [] => []
  | r :: rest =>
    match parts rest with
    | (s :: more) :: others =>
      if r.letter?.isSome && s.letter?.isSome then (r :: s :: more) :: others
      else [r] :: (s :: more) :: others
    | others => [r] :: others

/-- The parts that two concatenations begin with. -/
def commonParts : List (List Regex) → List (List Regex) → List (List Regex)
  | p :: ps, q :: qs => if sameAll p q then p :: commonParts ps qs else []
  | _, _ => []

/-- The parts that all alternatives begin with.  Alternatives that are no concatenations have
none. -/
def sharedParts (rs : List Regex) : List (List Regex) :=
  let all := rs.map fun r => parts r.factors
  match all with
  | [] => []
  | first :: others => if all.any (·.length ≤ 1) then [] else others.foldl commonParts first

/-- Gives the parts that all alternatives begin with up to a common beginning. -/
def chooseBehind (rs : List Regex) : Regex :=
  let shared := (sharedParts rs).flatten
  if shared.isEmpty then choose rs
  else
    let rests := rs.map fun r => chain (r.factors.drop shared.length)
    seqAll (shared ++ [chooseOrMerge (rests.flatMap branches)])

/-- The members of a list as alternatives, the first one preferred. -/
def altAll (rs : List Regex) : Regex :=
  let rs := rs.flatMap branches
  match rs with
  | _ :: _ :: _ =>
    match merged? rs with
    | some set => chars set .character
    | none => chooseBehind rs
  | _ => choose rs

end RegexInference.Regex
