import RegexInference.Regex.Basic

/-!
# Programs

An expression is turned into a program for a machine whose threads walk over the text.  The code
of an expression takes a block of consecutive addresses, is entered at the first of them, and leaves
the block for a given address.  The size of the block is known before it is written, so every
address is computed ahead.

A repetition of any number of rounds is one choice, to which every round returns.  If a round may
match the empty text, the choice to begin with is another one than the choice behind a round: such a
round leads back to a choice that was not met before, and from there out of the repetition.
-/

namespace RegexInference.Regex

inductive Instr where
  | char (set : Unicode.CodeSet) (next : Nat)
  | check (look : Look) (next : Nat)
  | fork (first second : Nat)
  | jump (next : Nat)
  | accept

def codeSize : Regex → Nat
  | empty => 1
  | chars _ _ => 1
  | look _ => 1
  | seq r s => r.codeSize + s.codeSize
  | alt r s => 1 + r.codeSize + s.codeSize
  | rounds r min max _ =>
    match max with
    | none =>
      if min = 0 then (if r.alwaysAdvances then r.codeSize + 1 else r.codeSize + 2)
      else min * r.codeSize + 1
    | some max => min * r.codeSize + (max - min) * (r.codeSize + 1) + 1
  | group r => r.codeSize

/-- A choice that prefers going on to leaving if it is greedy. -/
def choice (greedy : Bool) (go leave : Nat) : Instr :=
  if greedy then .fork go leave else .fork leave go

/-- `n` blocks of code behind each other, each of which is left for the next one. -/
def inARow (block : (start next : Nat) → List Instr) (size n start : Nat) : List Instr :=
  (List.range n).flatMap fun i => block (start + i * size) (start + (i + 1) * size)

/-- Up to `n` rounds; before each of them the block may be left for `next`. -/
def upTo (block : (start next : Nat) → List Instr) (size : Nat) (greedy : Bool)
    (next n start : Nat) : List Instr :=
  inARow (fun start behind => choice greedy (start + 1) next :: block (start + 1) behind)
    (size + 1) n start ++ [.jump next]

def loop (block : (start next : Nat) → List Instr) (size : Nat) (greedy : Bool)
    (start next : Nat) : List Instr :=
  block start (start + size) ++ [choice greedy start next]

/-- The code of an expression that is placed at `start` and left for `next`. -/
def code : Regex → (start next : Nat) → List Instr
  | empty, _, next => [.jump next]
  | chars set _, _, next => [.char set next]
  | look l, _, next => [.check l next]
  | seq r s, start, next =>
    r.code start (start + r.codeSize) ++ s.code (start + r.codeSize) next
  | alt r s, start, next =>
    let second := start + 1 + r.codeSize
    .fork (start + 1) second :: (r.code (start + 1) next ++ s.code second next)
  | rounds r min max greedy, start, next =>
    match max, min with
    | none, 0 =>
      choice greedy (start + 1) next ::
        (if r.alwaysAdvances then r.code (start + 1) start
        else loop r.code r.codeSize greedy (start + 1) next)
    | none, n + 1 =>
      inARow r.code r.codeSize n start ++
        loop r.code r.codeSize greedy (start + n * r.codeSize) next
    | some max, min =>
      inARow r.code r.codeSize min start ++
        upTo r.code r.codeSize greedy next (max - min) (start + min * r.codeSize)
  | group r, start, next => r.code start next

/-- A program is entered at address 0. -/
structure Program where
  code : Array Instr

def toProgram (r : Regex) : Program :=
  ⟨(r.code 0 r.codeSize ++ [Instr.accept]).toArray⟩

end RegexInference.Regex
