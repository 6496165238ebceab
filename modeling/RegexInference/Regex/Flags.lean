/-!
# Flags

The switches that `(?…)` sets inside a pattern.  A change lasts to the end of the group it stands
in.
-/

namespace RegexInference.Regex

/-- The switches of a pattern, by the letter that sets them. -/
inductive Flag where
  /-- `i`: letters stand for all their case variants. -/
  | anyCase
  /-- `m`: `^` and `$` also match at line ends. -/
  | multiLine
  /-- `s`: the dot also matches line ends. -/
  | dotAll
  /-- `U`: repetitions are lazy unless marked with `?`. -/
  | swapGreed
  /-- `u`: classes and boundaries know all characters, not only ASCII. -/
  | unicode
  /-- `R`: a carriage return also ends a line. -/
  | crlf
  /-- `x`: blanks and comments are skipped. -/
  | verbose
  deriving DecidableEq

def Flag.ofChar : Char → Option Flag
  | 'i' => some .anyCase
  | 'm' => some .multiLine
  | 's' => some .dotAll
  | 'U' => some .swapGreed
  | 'u' => some .unicode
  | 'R' => some .crlf
  | 'x' => some .verbose
  | _ => none

/-- The state of all switches. -/
structure Flags where
  anyCase : Bool := false
  multiLine : Bool := false
  dotAll : Bool := false
  swapGreed : Bool := false
  unicode : Bool := true
  crlf : Bool := false
  verbose : Bool := false
  deriving DecidableEq

namespace Flags

/-- Turns one switch on or off. -/
def set (flags : Flags) (value : Bool) : Flag → Flags
  | .anyCase => { flags with anyCase := value }
  | .multiLine => { flags with multiLine := value }
  | .dotAll => { flags with dotAll := value }
  | .swapGreed => { flags with swapGreed := value }
  | .unicode => { flags with unicode := value }
  | .crlf => { flags with crlf := value }
  | .verbose => { flags with verbose := value }

/-- Applies the switches of a flag group in turn, each with the value it is set to. -/
def apply (flags : Flags) (changes : List (Flag × Bool)) : Flags :=
  changes.foldl (fun state change => state.set change.2 change.1) flags

end Flags

end RegexInference.Regex
