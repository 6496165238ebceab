import RegexInference.Regex.Program
import Std.Data.HashSet

/-!
# Searching

A program is run on a text by a depth-first search over threads.  A thread is an address in the
program together with a place in the text.  Of two ways the preferred one is followed to its end
first, so the first thread that accepts is the match.  A thread that was met before is dropped: what
can come of it has been tried already.
-/

namespace RegexInference.Regex

/-- An address in the program and a place in the text. -/
structure Thread where
  address : Nat
  place : Nat
  deriving DecidableEq, Hashable

/-- The threads met so far. -/
abbrev Seen := Std.HashSet Thread

/-- What comes of one step of a thread. -/
inductive Effect where
  /-- The thread cannot go on. -/
  | dies
  | moves (t : Thread)
  /-- Two threads go on, the first of which is preferred. -/
  | forks (first second : Thread)
  | accepts

@[inline] def Program.step (p : Program) (text : Array Char) (t : Thread) : Effect :=
  match p.code[t.address]? with
  | none => .dies
  | some (.char set next) =>
    match text[t.place]? with
    | none => .dies
    | some c => if set.has c then .moves ⟨next, t.place + 1⟩ else .dies
  | some (.check test next) => if test.holds text t.place then .moves ⟨next, t.place⟩ else .dies
  | some (.fork first second) => .forks ⟨first, t.place⟩ ⟨second, t.place⟩
  | some (.jump next) => .moves ⟨next, t.place⟩
  | some .accept => .accepts

/-- Follows the threads on the stack until one accepts or all have died.  Returns the place of the
thread that accepts, and the threads met. -/
def Program.explore (p : Program) (text : Array Char) :
    (fuel : Nat) → List Thread → Seen → Option Nat × Seen
  | 0, _, seen => (none, seen)
  | _ + 1, [], seen => (none, seen)
  | fuel + 1, t :: stack, seen =>
    if seen.contains t then p.explore text fuel stack seen
    else
      match p.step text t with
      | .dies => p.explore text fuel stack (seen.insert t)
      | .moves next => p.explore text fuel (next :: stack) (seen.insert t)
      | .forks first second => p.explore text fuel (first :: second :: stack) (seen.insert t)
      | .accepts => (some t.place, seen)

/-- More steps than a search can take: each thread is met once and leaves two at most. -/
def Program.fuel (p : Program) (text : Array Char) : Nat :=
  3 * (p.code.size * (text.size + 1)) + 2

/-- Searches from place `start` and the `count` places behind it, in this order.  Threads that died
for an earlier start need not be tried again for a later one. -/
def Program.searchFrom (p : Program) (text : Array Char) :
    (count start : Nat) → Seen → Option (Nat × Nat)
  | 0, start, seen =>
    (p.explore text (p.fuel text) [⟨0, start⟩] seen).1.map fun stop => (start, stop)
  | count + 1, start, seen =>
    match p.explore text (p.fuel text) [⟨0, start⟩] seen with
    | (some stop, _) => some (start, stop)
    | (none, seen) => p.searchFrom text count (start + 1) seen

/-- The leftmost match that begins at place `start` or behind it, by its two ends. -/
def Program.find? (p : Program) (text : Array Char) (start : Nat) : Option (Nat × Nat) :=
  if start ≤ text.size then
    p.searchFrom text (text.size - start) start ∅
  else none

/-- Whether some part of the text matches. -/
def Program.accepts (p : Program) (text : Array Char) : Bool := (p.find? text 0).isSome

/-- Puts the matches from place `start` on that do not overlap in front of those found before, each
by its two ends.  An empty match right behind the match before it, which ended at `last`, is passed
over. -/
def Program.matchesFrom (p : Program) (text : Array Char) :
    (fuel start : Nat) → (last : Option Nat) → (found : List (Nat × Nat)) → List (Nat × Nat)
  | 0, _, _, found => found
  | fuel + 1, start, last, found =>
    match p.find? text start with
    | none => found
    | some (low, high) =>
      if low = high ∧ last = some high then p.matchesFrom text fuel (start + 1) last found
      else p.matchesFrom text fuel high (some high) ((low, high) :: found)

/-- All matches that do not overlap, from left to right. -/
def Program.findAll (p : Program) (text : Array Char) : List (Nat × Nat) :=
  (p.matchesFrom text (2 * (text.size + 1) + 1) 0 none []).reverse

/-- The most characters in one match, 0 when nothing matches. -/
def Program.longestMatch (p : Program) (text : Array Char) : Nat :=
  ((p.findAll text).map fun m => m.2 - m.1).foldl Nat.max 0

end RegexInference.Regex
