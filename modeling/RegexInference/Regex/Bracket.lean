import RegexInference.Regex.Escape

/-!
# Bracket classes

`[…]` denotes the union of its members: characters, ranges, shorthands, named classes and further
brackets.  `&&`, `--` and `~~` intersect, subtract and take the symmetric difference; they bind
equally and group to the left.

A class is read by one loop over its characters.  The brackets that are still open form a stack of
frames.
-/

namespace RegexInference.Regex

open Unicode (CodeSet)

/-- A set together with how deeply the text that wrote it was nested. -/
structure ClassPart where
  set : CodeSet
  depth : Nat

/-- The operators between parts of a class. -/
inductive SetOperator where
  | inter
  | diff
  | symmDiff

def SetOperator.apply : SetOperator → CodeSet → CodeSet → CodeSet
  | inter => CodeSet.inter
  | diff => CodeSet.diff
  | symmDiff => CodeSet.symmDiff

/-- A bracket that is still open. -/
structure ClassFrame where
  negated : Bool
  /-- The left operand of the last operator that was read. -/
  pending : Option (SetOperator × ClassPart) := none
  /-- The members since then, the last one first. -/
  members : List ClassPart := []

namespace ClassFrame

def push (frame : ClassFrame) (part : ClassPart) : ClassFrame :=
  { frame with members := part :: frame.members }

/-- The union of the members since the last operator. -/
def union (frame : ClassFrame) : ClassPart :=
  match frame.members with
  | [] => ⟨.empty, 0⟩
  | [part] => part
  | parts =>
    ⟨CodeSet.unionAll (parts.reverse.map ClassPart.set),
      1 + (parts.map ClassPart.depth).foldl Nat.max 0⟩

/-- All that was read so far as one operand.  The two sides of an operator are each closed under
case variants before it is applied. -/
def operand (flags : Flags) (frame : ClassFrame) : ClassPart :=
  match frame.pending with
  | none => frame.union
  | some (op, left) =>
    let right := frame.union
    ⟨op.apply (foldCase flags left.set) (foldCase flags right.set),
      1 + Nat.max left.depth right.depth⟩

/-- Makes all that was read so far the left operand of an operator. -/
def operator (flags : Flags) (frame : ClassFrame) (op : SetOperator) : ClassFrame :=
  { frame with pending := some (op, frame.operand flags), members := [] }

/-- The set of the bracket once it is closed.  Without the Unicode flag it must not reach beyond
ASCII. -/
def close? (flags : Flags) (frame : ClassFrame) : Option ClassPart :=
  let content := frame.operand flags
  let folded := foldCase flags content.set
  let set := if frame.negated then folded.compl else folded
  if !flags.unicode && set.beyondAscii then none else some ⟨set, content.depth + 1⟩

end ClassFrame

/-- The classes that are named between `[:` and `:]`. -/
def posixClass? (name : List Char) : Option CodeSet :=
  match String.ofList name with
  | "alnum" => some (rangesOf [('0', '9'), ('A', 'Z'), ('a', 'z')])
  | "alpha" => some (rangesOf [('A', 'Z'), ('a', 'z')])
  | "ascii" => some (.range 0 0x7F)
  | "blank" => some (rangesOf [('\t', '\t'), (' ', ' ')])
  | "cntrl" => some ((CodeSet.range 0 0x1F).union (.single 0x7F))
  | "digit" => some Unicode.asciiDigit
  | "graph" => some (.ofChars '!' '~')
  | "lower" => some (.ofChars 'a' 'z')
  | "print" => some (.ofChars ' ' '~')
  | "punct" => some (rangesOf [('!', '/'), (':', '@'), ('[', '\x60'), ('\x7b', '~')])
  | "space" => some Unicode.asciiSpace
  | "upper" => some (.ofChars 'A' 'Z')
  | "word" => some Unicode.asciiWord
  | "xdigit" => some (rangesOf [('0', '9'), ('A', 'F'), ('a', 'f')])
  | _ => none

/-- Splits `^` off the front. -/
def splitCaret : List Char → Bool × List Char
  | '^' :: rest => (true, rest)
  | cs => (false, cs)

/-- Reads a class such as `[:alpha:]` whose `[` has been read.  The outer option says whether this
is such a class at all, the inner one whether it is allowed. -/
def readPosix? (flags : Flags) : List Char → Option (Option ClassPart × List Char)
  | ':' :: rest =>
    let (negated, rest) := splitCaret rest
    match rest.span (· != ':') with
    | (name, ':' :: ']' :: left) =>
      (posixClass? name).map fun set =>
        let folded := foldCase flags set
        let set := if negated then folded.compl else folded
        (if !flags.unicode && negated then none else some ⟨set, 0⟩, left)
    | _ => none
  | _ => none

/-- Reads the `^` that negates a bracket, if there is one. -/
def readNegation (flags : Flags) (cs : List Char) : Bool × List Char :=
  match visible flags cs with
  | '^' :: rest => (true, visible flags rest)
  | rest => (false, rest)

/-- Opens a bracket whose `[` has been read.  Hyphens at the front are members, and so is a closing
bracket if nothing stands before it. -/
def openBracket (flags : Flags) (cs : List Char) : ClassFrame × List Char :=
  let (negated, afterCaret) := readNegation flags cs
  let (hyphens, left) := gather flags (· == '-') afterCaret.length afterCaret
  let frame : ClassFrame :=
    { negated, members := hyphens.map fun c => ⟨CodeSet.ofChar c, 0⟩ }
  match hyphens, left with
  | [], ']' :: rest => (frame.push ⟨CodeSet.ofChar ']', 0⟩, visible flags rest)
  | _, _ => (frame, left)

def readMember (flags : Flags) : List Char → Option (Escape × List Char)
  | [] => none
  | '\\' :: rest => readEscape flags rest
  | c :: rest => some (.literal ⟨c, false⟩, rest)

/-- The character behind the first one, past what verbose mode ignores.  In a comment the first
character that is not blank counts. -/
def peekBehind (flags : Flags) : List Char → Option Char
  | [] => none
  | _ :: rest =>
    if flags.verbose then
      match rest.dropWhile isBlank with
      | [] => rest.head?
      | '#' :: more => (more.dropWhile isBlank).head?.orElse fun _ => rest.head?
      | c :: _ => some c
    else rest.head?

/-- A character as a member of a class.  Without the Unicode flag it must be ASCII. -/
def Literal.member? (flags : Flags) (l : Literal) : Option Char :=
  if !flags.unicode && l.char.toNat ≥ 0x80 then none else some l.char

/-- Reads a character, a range or a class inside a bracket.  A hyphen before a closing bracket or
another hyphen does not make a range. -/
def readItem (flags : Flags) (cs : List Char) : Option (ClassPart × List Char) := do
  let (first, rest) ← readMember flags cs
  match visible flags rest with
  | [] => none
  | c :: more =>
    let behind := peekBehind flags (c :: more)
    if c != '-' || behind == some ']' || behind == some '-' then
      match first with
      | .literal l => (l.member? flags).map fun x => (⟨CodeSet.ofChar x, 0⟩, c :: more)
      | .set s => some (⟨s, 0⟩, c :: more)
      | .look _ => none
    else
      match first, ← readMember flags (visible flags more) with
      | .literal l, (.literal h, left) =>
        let low ← l.member? flags
        let high ← h.member? flags
        if low ≤ high then some (⟨CodeSet.ofChars low high, 0⟩, left) else none
      | _, _ => none

/-- Reads up to the bracket that closes the outermost open one. -/
def readMembers (flags : Flags) :
    (fuel : Nat) → ClassFrame → List ClassFrame → List Char → Option (ClassPart × List Char)
  | 0, _, _, _ => none
  | fuel + 1, frame, outer, cs =>
    match visible flags cs with
    | [] => none
    | '[' :: rest =>
      match readPosix? flags rest with
      | some (some part, left) => readMembers flags fuel (frame.push part) outer left
      | some (none, _) => none
      | none =>
        let (inner, left) := openBracket flags rest
        readMembers flags fuel inner (frame :: outer) left
    | ']' :: rest =>
      match frame.close? flags, outer with
      | none, _ => none
      | some part, [] => some (part, rest)
      | some part, parent :: others => readMembers flags fuel (parent.push part) others rest
    | '&' :: '&' :: rest => readMembers flags fuel (frame.operator flags .inter) outer rest
    | '-' :: '-' :: rest => readMembers flags fuel (frame.operator flags .diff) outer rest
    | '~' :: '~' :: rest => readMembers flags fuel (frame.operator flags .symmDiff) outer rest
    | c :: rest =>
      match readItem flags (c :: rest) with
      | none => none
      | some (part, left) => readMembers flags fuel (frame.push part) outer left

/-- Reads a bracket class whose `[` has been read. -/
def readBracket (flags : Flags) (cs : List Char) : Option (ClassPart × List Char) :=
  let (frame, rest) := openBracket flags cs
  readMembers flags (rest.length + 1) frame [] rest

end RegexInference.Regex
