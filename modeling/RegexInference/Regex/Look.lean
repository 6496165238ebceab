import RegexInference.Unicode.Derived

/-!
# Assertions about a place in the text

An assertion consumes nothing; it holds or fails at a place between two characters.  Place `i` lies
before the character with index `i`.
-/

namespace RegexInference.Regex

/-- What a word assertion asks of the two sides of a place. -/
inductive WordLook where
  /-- Exactly one side is a word character. -/
  | boundary
  | notBoundary
  | start
  | stop
  /-- No word character stands before. -/
  | startHalf
  /-- No word character stands behind. -/
  | stopHalf
  deriving DecidableEq

/-- An assertion about a place in the text. -/
inductive Look where
  | textStart
  | textEnd
  /-- At the start of the text or behind a line feed. -/
  | lineStart
  /-- At the end of the text or before a line feed. -/
  | lineEnd
  /-- Like `lineStart`, with carriage returns and their pairs with line feeds as line ends. -/
  | crlfStart
  | crlfEnd
  /-- A word assertion, over all word characters or the ASCII ones. -/
  | word (look : WordLook) (ascii : Bool)
  deriving DecidableEq

namespace WordLook

/-- Whether the assertion holds between two sides that are word characters or not. -/
def holds : WordLook → (before behind : Bool) → Bool
  | boundary, before, behind => before != behind
  | notBoundary, before, behind => before == behind
  | start, before, behind => !before && behind
  | stop, before, behind => before && !behind
  | startHalf, before, _ => !before
  | stopHalf, _, behind => !behind

end WordLook

namespace Look

def before? (text : Array Char) (i : Nat) : Option Char :=
  if i = 0 then none else text[i - 1]?

/-- Whether the character, if there is one, is a word character. -/
def isWordChar (ascii : Bool) : Option Char → Bool
  | none => false
  | some c => (if ascii then Unicode.asciiWord else Unicode.word).contains c.toNat

def holds (text : Array Char) (i : Nat) : Look → Bool
  | textStart => i == 0
  | textEnd => i == text.size
  | lineStart => i == 0 || before? text i == some '\n'
  | lineEnd => i == text.size || text[i]? == some '\n'
  | crlfStart =>
    i == 0 || before? text i == some '\n' ||
    (before? text i == some '\r' && text[i]? != some '\n')
  | crlfEnd =>
    i == text.size || text[i]? == some '\r' ||
    (text[i]? == some '\n' && before? text i != some '\r')
  | word look ascii =>
    look.holds (isWordChar ascii (before? text i)) (isWordChar ascii text[i]?)

end Look

end RegexInference.Regex
