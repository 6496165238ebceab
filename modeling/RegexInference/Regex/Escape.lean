import RegexInference.Regex.Escaped
import RegexInference.Regex.Flags
import RegexInference.Regex.Look
import RegexInference.Regex.Property
import RegexInference.Unicode.CharSet

/-!
# Escapes

What a backslash introduces: a literal character, a shorthand or named class, or an assertion.
Every reader takes the characters that follow and returns what it read with the rest, or `none`
when the text breaks the rules.

In verbose mode blanks and comments are skipped between any two characters of an escape, which is
why the readers carry the flags.
-/

namespace RegexInference.Regex

open Unicode (CodeSet)

/-- White space, as skipped in verbose mode and around repetition counts. -/
def isBlank (c : Char) : Bool := Unicode.isSpace c.toNat

/-- Skips blanks and comments; a comment runs to the end of its line. -/
def skipIgnored : (inComment : Bool) → List Char → List Char
  | _, [] => []
  | true, c :: rest => skipIgnored (c != '\n') rest
  | false, c :: rest =>
    if isBlank c then skipIgnored false rest
    else if c = '#' then skipIgnored true rest
    else c :: rest

/-- What is left once blanks and comments are skipped, which only verbose mode does. -/
def visible (flags : Flags) (cs : List Char) : List Char :=
  if flags.verbose then skipIgnored false cs else cs

/-- Takes characters while they satisfy `p`, skipping what verbose mode ignores behind each. -/
def gather (flags : Flags) (p : Char → Bool) : (fuel : Nat) → List Char → List Char × List Char
  | 0, cs => ([], cs)
  | _ + 1, [] => ([], [])
  | fuel + 1, c :: rest =>
    if p c then
      let (taken, left) := gather flags p fuel (visible flags rest)
      (c :: taken, left)
    else ([], c :: rest)

/-- A character written out, with whether it was written as `\xHH`. -/
structure Literal where
  char : Char
  byteForm : Bool := false

/-- Characters that a backslash leaves as they are: ASCII, but no letter, digit or angle
bracket. -/
def isEscapable (c : Char) : Bool :=
  c.toNat < 0x80 && !c.isAlphanum && c != '<' && c != '>'

def hexValue? (c : Char) : Option Nat :=
  if '0' ≤ c ∧ c ≤ '9' then some (c.toNat - '0'.toNat)
  else if 'a' ≤ c ∧ c ≤ 'f' then some (c.toNat - 'a'.toNat + 10)
  else if 'A' ≤ c ∧ c ≤ 'F' then some (c.toNat - 'A'.toNat + 10)
  else none

/-- The character with a hexadecimal code. -/
def charOfHex? (digits : List Char) : Option Char :=
  let code := digits.foldl (fun n d => 16 * n + (hexValue? d).getD 0) 0
  if code.isValidChar then some (Char.ofNat code) else none

/-- Takes exactly this many hexadecimal digits. -/
def hexDigits (flags : Flags) : Nat → List Char → Option (List Char × List Char)
  | 0, cs => some ([], cs)
  | _ + 1, [] => none
  | n + 1, c :: rest =>
    if (hexValue? c).isSome then
      (hexDigits flags n (visible flags rest)).map fun (ds, left) => (c :: ds, left)
    else none

/-- Reads the digits of an escape whose plain form has `width` digits; any number of them may
stand in braces. -/
def readHex (flags : Flags) (width : Nat) (cs : List Char) : Option (Literal × List Char) :=
  match visible flags cs with
  | '{' :: rest =>
    match gather flags (fun c => (hexValue? c).isSome) rest.length.succ (visible flags rest) with
    | ([], _) => none
    | (digits, '}' :: left) => (charOfHex? digits).map fun c => (⟨c, false⟩, left)
    | _ => none
  | digitsFirst => do
    let (digits, left) ← hexDigits flags width digitsFirst
    let c ← charOfHex? digits
    return (⟨c, width == 2⟩, left)

inductive Shorthand where
  | digit
  | space
  | word
  deriving DecidableEq

def rangesOf (ranges : List (Char × Char)) : CodeSet :=
  CodeSet.unionAll (ranges.map fun (first, last) => CodeSet.ofChars first last)

/-- The class over ASCII characters only. -/
def Shorthand.asciiSet : Shorthand → CodeSet
  | digit => Unicode.asciiDigit
  | space => Unicode.asciiSpace
  | word => Unicode.asciiWord

/-- The class over all characters. -/
def Shorthand.unicodeSet : Shorthand → CodeSet
  | digit => Unicode.Category.decimalNumber
  | space => Unicode.Contributory.whiteSpace
  | word => Unicode.word

/-- The set of a shorthand.  Without the Unicode flag a complement is refused, because its members
beyond ASCII are no characters. -/
def Shorthand.toSet? (flags : Flags) (negated : Bool) (s : Shorthand) : Option CodeSet :=
  if flags.unicode then some (if negated then s.unicodeSet.compl else s.unicodeSet)
  else if negated then none
  else some s.asciiSet

/-- The shorthand of a letter, with whether it stands for the complement. -/
def Shorthand.ofChar? : Char → Option (Shorthand × Bool)
  | 'd' => some (digit, false)
  | 'D' => some (digit, true)
  | 's' => some (space, false)
  | 'S' => some (space, true)
  | 'w' => some (word, false)
  | 'W' => some (word, true)
  | _ => none

/-- Splits at the first place where `separator` occurs. -/
def splitAtFirst (separator : List Char) : List Char → Option (List Char × List Char)
  | [] => none
  | c :: rest =>
    if separator.isPrefixOf (c :: rest) then some ([], (c :: rest).drop separator.length)
    else (splitAtFirst separator rest).map fun (before, behind) => (c :: before, behind)

/-- The set that the text between the braces of `\p{…}` names, with whether it is negated once
more. -/
def propertyOf? (name : List Char) : Option (CodeSet × Bool) :=
  match splitAtFirst ['!', '='] name with
  | some (key, value) => (Property.valued? key value).map (·, true)
  | none =>
    match splitAtFirst [':'] name with
    | some (key, value) => (Property.valued? key value).map (·, false)
    | none =>
      match splitAtFirst ['='] name with
      | some (key, value) => (Property.valued? key value).map (·, false)
      | none => (Property.named? name).map (·, false)

/-- The set with all case variants when the flags ask for them. -/
def foldCase (flags : Flags) (s : CodeSet) : CodeSet :=
  if flags.anyCase then (if flags.unicode then s.anyCase else s.anyAsciiCase) else s

/-- Reads the name behind `\p` or `\P`: one character, or any text in braces. -/
def readPropertyName (flags : Flags) (cs : List Char) : Option (List Char × List Char) :=
  match visible flags cs with
  | [] => none
  | '{' :: rest =>
    match gather flags (· != '}') rest.length.succ (visible flags rest) with
    | (name, '}' :: left) => some (name, left)
    | _ => none
  | '\\' :: _ => none
  | c :: rest => some ([c], visible flags rest)

/-- The set of a named property under these flags.  Properties are refused without the Unicode
flag. -/
def property? (flags : Flags) (negated : Bool) (name : List Char) : Option CodeSet :=
  if !flags.unicode then none
  else
    (propertyOf? name).map fun (set, flipped) =>
      let folded := foldCase flags set
      if negated != flipped then folded.compl else folded

/-- Reads what follows `\p` or `\P`. -/
def readProperty (flags : Flags) (negated : Bool) (cs : List Char) :
    Option (CodeSet × List Char) := do
  let (name, left) ← readPropertyName flags cs
  let set ← property? flags negated name
  return (set, left)

/-- What a backslash introduces. -/
inductive Escape where
  | literal (l : Literal)
  | set (s : CodeSet)
  | look (l : Look)

/-- The word assertions that are named in braces behind `\b`. -/
def WordLook.ofName? (name : List Char) : Option WordLook :=
  match String.ofList name with
  | "start" => some .start
  | "end" => some .stop
  | "start-half" => some .startHalf
  | "end-half" => some .stopHalf
  | _ => none

/-- Reads what follows `\b`.  A brace that does not open a name is left for a repetition. -/
def readBoundary (flags : Flags) (cs : List Char) : Option (WordLook × List Char) :=
  match cs with
  | '{' :: rest =>
    match visible flags rest with
    | [] => none
    | c :: more =>
      let isNameChar := fun (c : Char) => c.isAlpha || c == '-'
      if isNameChar c then
        match gather flags isNameChar (c :: more).length.succ (c :: more) with
        | (name, '}' :: left) => (WordLook.ofName? name).map (·, left)
        | _ => none
      else some (.boundary, cs)
  | _ => some (.boundary, cs)

def readEscape (flags : Flags) : List Char → Option (Escape × List Char)
  | [] => none
  | c :: rest =>
    let word (kind : WordLook) := Escape.look (.word kind (!flags.unicode))
    let char (code : Nat) := Escape.literal ⟨Char.ofNat code, false⟩
    match Shorthand.ofChar? c with
    | some (shorthand, negated) =>
      (shorthand.toSet? flags negated).map fun s => (.set s, rest)
    | none =>
      if isMeta c || isEscapable c then some (.literal ⟨c, false⟩, rest)
      else
        match c with
        | 'x' => (readHex flags 2 rest).map fun (l, left) => (.literal l, left)
        | 'u' => (readHex flags 4 rest).map fun (l, left) => (.literal l, left)
        | 'U' => (readHex flags 8 rest).map fun (l, left) => (.literal l, left)
        | 'p' => (readProperty flags false rest).map fun (s, left) => (.set s, left)
        | 'P' => (readProperty flags true rest).map fun (s, left) => (.set s, left)
        | 'a' => some (char 0x07, rest)
        | 'f' => some (char 0x0C, rest)
        | 't' => some (char 0x09, rest)
        | 'n' => some (char 0x0A, rest)
        | 'r' => some (char 0x0D, rest)
        | 'v' => some (char 0x0B, rest)
        | 'A' => some (.look .textStart, rest)
        | 'z' => some (.look .textEnd, rest)
        | 'b' => (readBoundary flags rest).map fun (kind, left) => (word kind, left)
        | 'B' => some (word .notBoundary, rest)
        | '<' => some (word .start, rest)
        | '>' => some (word .stop, rest)
        | _ => none

end RegexInference.Regex
