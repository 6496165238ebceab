import RegexInference.Regex.Basic
import RegexInference.Regex.Bracket

/-!
# Tokens

The text of a pattern is cut into tokens from left to right.  The scanner keeps the flags that are
in force, so that a token no longer depends on where it stands: a dot or a word assertion already
means what the flags around it make of it.
-/

namespace RegexInference.Regex

open Unicode (CodeSet)

/-- A piece of a pattern. -/
inductive Token where
  /-- An expression, with how deeply its text was nested. -/
  | item (r : Regex) (depth : Nat)
  /-- A change of flags, which matches the empty text and cannot be repeated. -/
  | flags
  /-- A group begins, which may be a capturing one. -/
  | groupStart (captures : Bool)
  | groupEnd
  | bar
  /-- A repetition of what stands before it. -/
  | rounds (min : Nat) (max : Option Nat) (greedy : Bool)

/-- What the scanner remembers between tokens. -/
structure ScanState where
  flags : Flags := {}
  /-- The flags to return to at the end of each open group, the innermost first. -/
  outer : List Flags := []
  /-- The group names seen so far. -/
  names : List (List Char) := []

/-- What a class counts under these flags. -/
def Flags.classUnit (flags : Flags) : ClassUnit := if flags.unicode then .character else .byte

/-- A literal outside brackets.  Without the Unicode flag `\xHH` stands for a byte, which beyond
ASCII is no character. -/
def Literal.toRegex? (flags : Flags) (l : Literal) : Option Regex :=
  if !flags.unicode && l.byteForm && l.char.toNat ≥ 0x80 then none
  else some (.chars (foldCase flags (CodeSet.ofChar l.char)) flags.classUnit)

/-- The dot.  Without the Unicode flag it would match single bytes and is refused. -/
def dot? (flags : Flags) : Option Regex :=
  if !flags.unicode then none
  else
    let excluded :=
      if flags.dotAll then CodeSet.empty
      else if flags.crlf then (CodeSet.ofChar '\r').union (CodeSet.ofChar '\n')
      else CodeSet.ofChar '\n'
    some (.chars excluded.compl .character)

def caret (flags : Flags) : Look :=
  if flags.multiLine then (if flags.crlf then .crlfStart else .lineStart) else .textStart

def dollar (flags : Flags) : Look :=
  if flags.multiLine then (if flags.crlf then .crlfEnd else .lineEnd) else .textEnd

/-- The item that an escape stands for outside brackets. -/
def Escape.toRegex? (flags : Flags) : Escape → Option Regex
  | literal l => l.toRegex? flags
  | set s => some (.chars s flags.classUnit)
  | look l => some (.look l)

/-- Reads `(?flags` up to the colon or parenthesis that ends it, which is returned.  Each flag and
the hyphen may be given once; the flags behind the hyphen are turned off. -/
def readFlags : (seen : List (Flag × Bool)) → (negated justNegated : Bool) → List Char →
    Option (List (Flag × Bool) × Char × List Char)
  | _, _, _, [] => none
  | seen, negated, justNegated, c :: rest =>
    if c = ':' ∨ c = ')' then
      if justNegated then none else some (seen.reverse, c, rest)
    else if c = '-' then
      if negated then none else readFlags seen true true rest
    else
      match Flag.ofChar c with
      | none => none
      | some flag =>
        if seen.any (·.1 == flag) then none
        else readFlags ((flag, !negated) :: seen) negated false rest

/-- Characters of a group name; the first one is more restricted. -/
def isNameChar (first : Bool) (c : Char) : Bool :=
  if first then c == '_' || Unicode.isAlphabetic c.toNat
  else c == '_' || c == '.' || c == '[' || c == ']' || Unicode.isAlphanumeric c.toNat

/-- Reads a group name up to the `>` that ends it. -/
def readName? (cs : List Char) : Option (List Char × List Char) :=
  match cs.span (· != '>') with
  | (first :: others, '>' :: rest) =>
    if isNameChar true first && others.all (isNameChar false) then some (first :: others, rest)
    else none
  | _ => none

/-- A group with these flags begins. -/
def ScanState.enter (state : ScanState) (flags : Flags) : ScanState :=
  { state with flags, outer := state.flags :: state.outer }

/-- A group with this name begins; a name may be used once. -/
def ScanState.enterNamed? (state : ScanState) (name : List Char) : Option ScanState :=
  if state.names.contains name then none
  else some { state.enter state.flags with names := name :: state.names }

/-- Reads a group name behind its `<`, and enters the group. -/
def readNamed (state : ScanState) (cs : List Char) : Option (Token × ScanState × List Char) := do
  let (name, left) ← readName? cs
  let entered ← state.enterNamed? name
  some (.groupStart true, entered, left)

/-- Reads flags, which are those of a group if a colon ends them and else of what follows. -/
def readFlagged (state : ScanState) (cs : List Char) : Option (Token × ScanState × List Char) :=
  match readFlags [] false false cs with
  | none => none
  | some (changes, close, left) =>
    let flags := state.flags.apply changes
    if close = ':' then some (.groupStart false, state.enter flags, left)
    else if changes.isEmpty then none
    else some (.flags, { state with flags }, left)

/-- Whether an assertion about what lies ahead or behind begins, which patterns do not have. -/
def isLookaround (cs : List Char) : Bool :=
  [['='], ['!'], ['<', '='], ['<', '!']].any (·.isPrefixOf cs)

/-- Reads what follows `(?`. -/
def readExtension (state : ScanState) (cs : List Char) :
    Option (Token × ScanState × List Char) :=
  if isLookaround cs then none
  else
    match cs with
    | 'P' :: '<' :: rest => readNamed state rest
    | '<' :: rest => readNamed state rest
    | _ => readFlagged state cs

/-- Reads what follows an opening parenthesis. -/
def readGroup (state : ScanState) (cs : List Char) : Option (Token × ScanState × List Char) :=
  match visible state.flags cs with
  | '?' :: rest => readExtension state rest
  | rest => some (.groupStart true, state.enter state.flags, rest)

/-- Splits `?` off the front. -/
def splitLazy : List Char → Bool × List Char
  | '?' :: rest => (true, rest)
  | cs => (false, cs)

/-- A repetition, lazy when marked so or when the flags swap the two. -/
def roundsToken (flags : Flags) (min : Nat) (max : Option Nat) (marked : Bool) : Token :=
  .rounds min max (marked == flags.swapGreed)

/-- Reads a count with blanks around it.  Counts take 32 bits. -/
def readCount (flags : Flags) (cs : List Char) : Option Nat × List Char :=
  let (digits, rest) := gather flags Char.isDigit cs.length.succ (cs.dropWhile isBlank)
  let left := visible flags (rest.dropWhile isBlank)
  match digits with
  | [] => (none, left)
  | _ =>
    let n := digits.foldl (fun n d => 10 * n + (d.toNat - '0'.toNat)) 0
    (if n < UInt32.size then some n else none, left)

/-- Reads the upper bound of a counted repetition up to its closing brace, which is left behind.
Without a comma the bound is the count `min` before it; an empty bound is none. -/
def readUpperBound (flags : Flags) (min : Nat) (cs : List Char) :
    Option (Option Nat × List Char) :=
  match cs with
  | ',' :: more =>
    match visible flags more with
    | '}' :: left => some (none, '}' :: left)
    | bounded =>
      match readCount flags bounded with
      | (some max, left) => some (some max, left)
      | (none, _) => none
  | left => some (some min, left)

/-- Reads the rest of a counted repetition whose `{` has been read. -/
def readCounts (flags : Flags) (cs : List Char) : Option (Token × List Char) := do
  let (first, rest) := readCount flags (visible flags cs)
  let min ← first
  let (max, left) ← readUpperBound flags min rest
  match left with
  | '}' :: behind =>
    if max.all (min ≤ ·) then
      let (marked, left) := splitLazy (visible flags behind)
      some (roundsToken flags min max marked, left)
    else none
  | _ => none

/-- Reads one token whose first character is `c`. -/
def readToken (state : ScanState) (c : Char) (rest : List Char) :
    Option (Token × ScanState × List Char) :=
  let item (r : Regex) (depth : Nat) (left : List Char) := some (Token.item r depth, state, left)
  let suffix (min : Nat) (max : Option Nat) :=
    let (marked, left) := splitLazy rest
    some (roundsToken state.flags min max marked, state, left)
  match c with
  | '(' => readGroup state rest
  | ')' =>
    match state.outer with
    | [] => none
    | flags :: outer => some (.groupEnd, { state with flags, outer }, rest)
  | '|' => some (.bar, state, rest)
  | '[' => do
    let (part, left) ← readBracket state.flags rest
    item (.chars part.set state.flags.classUnit) part.depth left
  | '?' => suffix 0 (some 1)
  | '*' => suffix 0 none
  | '+' => suffix 1 none
  | '{' => (readCounts state.flags rest).map fun (token, left) => (token, state, left)
  | '\\' => do
    let (escape, left) ← readEscape state.flags rest
    let r ← escape.toRegex? state.flags
    item r 0 left
  | '.' => (dot? state.flags).bind fun r => item r 0 rest
  | '^' => item (.look (caret state.flags)) 0 rest
  | '$' => item (.look (dollar state.flags)) 0 rest
  | c => (Literal.toRegex? state.flags ⟨c, false⟩).bind fun r => item r 0 rest

def readTokens : (fuel : Nat) → ScanState → List Char → Option (List Token)
  | 0, _, _ => none
  | fuel + 1, state, cs =>
    match visible state.flags cs with
    | [] => if state.outer.isEmpty then some [] else none
    | c :: rest =>
      match readToken state c rest with
      | none => none
      | some (token, next, left) => (readTokens fuel next left).map (token :: ·)

def tokens? (cs : List Char) : Option (List Token) :=
  readTokens (cs.length + 1) {} cs

end RegexInference.Regex
