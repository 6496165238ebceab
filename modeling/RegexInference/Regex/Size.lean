import RegexInference.Regex.Join
import RegexInference.Unicode.Utf8

/-!
# The size of a pattern

A pattern is held as two machines that read the bytes of a text in UTF-8: one reads forwards and
finds where a match ends, the other reads backwards and finds where it begins.  A machine is
charged with a flat amount for every state, and with some more for each way that leads on from a
state.  A pattern is accepted if neither machine takes more than `sizeLimit` bytes.

The machines are not built here; their size follows from the expression.  Most patterns are far
from the limit, so an estimate from above settles them first.
-/

namespace RegexInference.Regex

open Unicode (CodeSet)
open Unicode.Utf8 (ByteRange)

/-- The most bytes that a machine may take, 10 MiB. -/
def sizeLimit : Nat := 10 * 1024 * 1024

def stateBytes : Nat := 32

def wayBytes : Nat := 4

/-- The bytes of a state that chooses between this many ways. -/
def choiceBytes (ways : Nat) : Nat := stateBytes + ways * wayBytes

/-- The bytes of a state that is left by this many ranges of bytes. -/
def rangesBytes (ranges : Nat) : Nat := stateBytes + 8 * ranges

def total (ns : List Nat) : Nat := ns.foldl (· + ·) 0

/-! ## Classes -/

/-- What may follow each of the ranges that some sequences in increasing order begin with. -/
def followers (sequences : List (List ByteRange)) : List (List (List ByteRange)) :=
  (sequences.splitBy fun s t => s.head? == t.head?).map fun block => block.map List.tail

/-- The states that are reached from a state within `depth` bytes, each given by the sequences that
lead on from it.  A sequence that is used up leads to no other state. -/
def reachable : (depth : Nat) → List (List ByteRange) → List (List (List ByteRange))
  | 0, _ => []
  | depth + 1, sequences =>
    if sequences.all List.isEmpty then []
    else sequences :: (followers sequences).flatMap (reachable depth)

/-- The bytes of a class in the machine that reads forwards.  States with the same way on are one
state, and one more is the end. -/
def forwardClassBytes (set : CodeSet) : Nat :=
  let states := (reachable 4 (Unicode.Utf8.sequencesOf set)).eraseDups
  stateBytes + total (states.map fun s => rangesBytes (followers s).length)

/-- How many ranges two sequences begin with in common. -/
def commonLength : List ByteRange → List ByteRange → Nat
  | a :: s, b :: t => if a = b then 1 + commonLength s t else 0
  | _, _ => 0

/-- How many states a machine has that shares what sequences in increasing order begin with;
`previous` stands in front of them. -/
def beginningStates (previous : List ByteRange) : List (List ByteRange) → Nat
  | [] => 0
  | s :: rest => s.length - commonLength previous s + beginningStates s rest

/-- The bytes of a class in the machine that reads backwards.  It chooses between the sequences and
shares what these begin with. -/
def backwardClassBytes (set : CodeSet) : Nat :=
  let sequences := Unicode.Utf8.sequencesOf set
  stateBytes + choiceBytes sequences.length + stateBytes * beginningStates [] sequences

/-- No less than the bytes of a class in either machine. -/
def classBytesAtMost (set : CodeSet) : Nat :=
  let sequences := total (set.runs.map fun (low, high) => Unicode.Utf8.sequencesAtMost low high)
  stateBytes + choiceBytes sequences + 4 * stateBytes * sequences

/-! ## Literal alternatives -/

def text? (r : Regex) : Option (List Char) :=
  match r.factors with
  | [] => none
  | factors => factors.mapM letter?

/-- The bytes of each alternative, if all of them are texts. -/
def texts? (r : Regex) : Option (List (List Nat)) :=
  (r.branches.mapM text?).map fun texts =>
    texts.map fun cs => cs.flatMap fun c => Unicode.Utf8.encode c.toNat

/-- Cuts a list where a text is used up; such a text prefers to end over what comes behind it. -/
def untilUsedUp : List (List Nat) → List (List (List Nat))
  | [] => [[]]
  | [] :: rest => [] :: untilUsedUp rest
  | text :: rest =>
    match untilUsedUp rest with
    | [] => [[text]]
    | block :: blocks => (text :: block) :: blocks

/-- What the texts with a given first byte go on with. -/
def behind (first : Nat) (texts : List (List Nat)) : List (List Nat) :=
  texts.filterMap fun
    | byte :: rest => if byte = first then some rest else none
    | [] => none

/-- The bytes of the states that read alternative texts, which share what they begin with; the state
at their end is not counted. -/
def sharedTextBytes : (depth : Nat) → List (List Nat) → Nat
  | 0, _ => 0
  | depth + 1, texts =>
    if texts.all List.isEmpty then 0
    else
      let blocks := untilUsedUp texts
      let firsts := blocks.map fun block => (block.filterMap List.head?).eraseDups
      let ways := (firsts.filter fun heads => !heads.isEmpty).length + (blocks.length - 1)
      let here := firsts.map fun heads =>
        match heads with
        | [] => 0
        | [_] => stateBytes
        | heads => rangesBytes heads.length
      let beyond := (blocks.zip firsts).flatMap fun (block, heads) =>
        heads.map fun first => sharedTextBytes depth (behind first block)
      choiceBytes ways + total here + total beyond

def textsBytes (texts : List (List Nat)) : Nat :=
  stateBytes + sharedTextBytes ((texts.map List.length).foldl Nat.max 0) texts

/-- No less than the bytes of alternative texts. -/
def textsBytesAtMost (texts : List (List Nat)) : Nat :=
  stateBytes + total (texts.map fun text => choiceBytes 2 * (2 * text.length + 1))

/-! ## Expressions -/

/-- How the parts of an expression weigh that the machines do not have in common. -/
structure Scale where
  /-- The bytes of a class that goes beyond ASCII. -/
  wideClass : CodeSet → Nat
  texts : List (List Nat) → Nat
  /-- The bytes of the two ends of a capturing group. -/
  group : Nat

/-- The machine that reads forwards notes where groups begin and end. -/
def forwardScale : Scale := ⟨forwardClassBytes, textsBytes, 2 * stateBytes⟩

def backwardScale : Scale :=
  ⟨backwardClassBytes, fun texts => textsBytes (texts.map List.reverse), 0⟩

/-- Weighs no part less than the scale of either machine. -/
def estimateScale : Scale := ⟨classBytesAtMost, textsBytesAtMost, 2 * stateBytes⟩

namespace Scale

def chars (scale : Scale) (set : CodeSet) (unit : ClassUnit) : Nat :=
  match set.only? with
  | some c => stateBytes * (Unicode.Utf8.encode c.toNat).length
  | none =>
    if unit = .byte || !set.beyondAscii then stateBytes + rangesBytes set.runs.length
    else scale.wideClass set

end Scale

/-- The bytes of a repetition whose rounds take `size` bytes each. -/
def roundsBytes (size min : Nat) (max : Option Nat) (advances : Bool) : Nat :=
  match min, max with
  | 0, none =>
    if advances then choiceBytes 2 + size else size + 2 * choiceBytes 2 + stateBytes
  | min, none => min * size + choiceBytes 2
  | min, some max =>
    if min = max then min * size
    else
      (if min = 0 ∧ 1 < max then stateBytes else min * size) + stateBytes +
        (max - min) * (choiceBytes 2 + size)

/-- The bytes of an expression.  As a part of an alternation it is also one of its ways. -/
def bytes (scale : Scale) : (isPart : Bool) → Regex → Nat
  | isPart, empty => way isPart + stateBytes
  | isPart, chars set unit => way isPart + scale.chars set unit
  | isPart, look _ => way isPart + stateBytes
  | isPart, seq r s => way isPart + r.bytes scale false + s.bytes scale false
  | true, alt r s => r.bytes scale true + s.bytes scale true
  | false, alt r s =>
    match (alt r s).texts? with
    | some texts => scale.texts texts
    | none => 2 * stateBytes + r.bytes scale true + s.bytes scale true
  | isPart, rounds r min max _ =>
    way isPart + roundsBytes (r.bytes scale false) min max r.alwaysAdvances
  | isPart, group r => way isPart + scale.group + r.bytes scale false
where
  way (isPart : Bool) : Nat := if isPart then wayBytes else 0

def beginsWith (assertion : Look) : Regex → Bool
  | empty => false
  | chars _ _ => false
  | look l => l == assertion
  | seq r s => r.beginsWith assertion || (r.isEmptyOnly && s.beginsWith assertion)
  | alt r s => r.beginsWith assertion && s.beginsWith assertion
  | rounds r min _ _ => 0 < min && r.beginsWith assertion
  | group r => r.beginsWith assertion

def endsWith (assertion : Look) : Regex → Bool
  | empty => false
  | chars _ _ => false
  | look l => l == assertion
  | seq r s => s.endsWith assertion || (s.isEmptyOnly && r.endsWith assertion)
  | alt r s => r.endsWith assertion && s.endsWith assertion
  | rounds r min _ _ => 0 < min && r.endsWith assertion
  | group r => r.endsWith assertion

/-- The bytes of the states in front of an expression, which skip the text before a match unless
this is known to begin at the very end that is read first. -/
def skipBytes (atEnd : Bool) : Nat :=
  if atEnd then stateBytes else 2 * choiceBytes 2 + stateBytes

/-- The bytes of the machine that reads forwards.  The match as a whole counts as a group. -/
def forwardBytes (r : Regex) : Nat :=
  skipBytes (r.beginsWith .textStart) + forwardScale.group + r.bytes forwardScale false + stateBytes

def backwardBytes (r : Regex) : Nat :=
  skipBytes (r.endsWith .textEnd) + r.bytes backwardScale false + stateBytes

/-- No less than the bytes of either machine. -/
def bytesAtMost (r : Regex) : Nat :=
  skipBytes false + estimateScale.group + r.bytes estimateScale false + stateBytes

/-- Whether a pattern is small enough. -/
def fits (r : Regex) : Bool :=
  r.bytesAtMost ≤ sizeLimit || (r.forwardBytes ≤ sizeLimit && r.backwardBytes ≤ sizeLimit)

end RegexInference.Regex
