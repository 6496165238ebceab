import RegexInference.Json.Error

/-!
# Scanning

Readers for the smallest parts of a document: blanks, words, strings and numbers.  Every reader
takes the characters that follow and returns what it read with the rest.
-/

namespace RegexInference.Json

/-- Blanks between the parts of a document. -/
def isBlank (c : Char) : Bool := c == ' ' || c == '\n' || c == '\t' || c == '\r'

def skipBlanks (cs : List Char) : List Char := cs.dropWhile isBlank

/-- The error of a text that ends early or goes on wrongly. -/
def unexpected {α : Type} (place : Place) (fault : Fault) : List Char → Except Error α
  | [] => .error (.truncated place)
  | _ => .error (.malformed fault)

/-- Reads the rest of a word such as `null`. -/
def scanWord : (word : List Char) → List Char → Except Error (List Char)
  | [], cs => .ok cs
  | w :: word, c :: rest => if c = w then scanWord word rest else .error (.malformed .expectedWord)
  | _ :: _, [] => .error (.truncated .value)

/-! ## Strings -/

def hexValue? (c : Char) : Option Nat :=
  if '0' ≤ c ∧ c ≤ '9' then some (c.toNat - '0'.toNat)
  else if 'a' ≤ c ∧ c ≤ 'f' then some (c.toNat - 'a'.toNat + 10)
  else if 'A' ≤ c ∧ c ≤ 'F' then some (c.toNat - 'A'.toNat + 10)
  else none

/-- Whether fewer than four bytes are left. -/
def endsWithinFour (cs : List Char) : Bool :=
  ((cs.take 4).map Char.utf8Size).foldl (· + ·) 0 < 4

def scanHex (cs : List Char) : Except Error (Nat × List Char) :=
  if endsWithinFour cs then .error (.truncated .string)
  else
    match cs with
    | a :: b :: c :: d :: rest =>
      match hexValue? a, hexValue? b, hexValue? c, hexValue? d with
      | some a, some b, some c, some d => .ok (((a * 16 + b) * 16 + c) * 16 + d, rest)
      | _, _, _, _ => .error (.malformed .invalidEscape)
    | _ => .error (.malformed .invalidEscape)

/-- Reads the code behind `\u`.  Two codes in a row make one character beyond U+FFFF; neither of the
two may stand alone. -/
def scanCode (cs : List Char) : Except Error (Char × List Char) := do
  let (high, rest) ← scanHex cs
  if 0xDC00 ≤ high ∧ high ≤ 0xDFFF then throw (.malformed .loneSurrogate)
  if high < 0xD800 ∨ 0xDBFF < high then return (Char.ofNat high, rest)
  match rest with
  | '\\' :: 'u' :: more =>
    let (low, left) ← scanHex more
    if low < 0xDC00 ∨ 0xDFFF < low then throw (.malformed .loneSurrogate)
    return (Char.ofNat ((high - 0xD800) * 0x400 + (low - 0xDC00) + 0x10000), left)
  | '\\' :: more => unexpected .string .unpairedSurrogate more
  | more => unexpected .string .unpairedSurrogate more

/-- The character of an escape of one letter. -/
def simpleEscape? : Char → Option Char
  | '"' => some '"'
  | '\\' => some '\\'
  | '/' => some '/'
  | 'b' => some (Char.ofNat 0x08)
  | 'f' => some (Char.ofNat 0x0C)
  | 'n' => some '\n'
  | 'r' => some '\r'
  | 't' => some '\t'
  | _ => none

def scanEscape : List Char → Except Error (Char × List Char)
  | [] => .error (.truncated .string)
  | 'u' :: rest => scanCode rest
  | c :: rest =>
    match simpleEscape? c with
    | some x => .ok (x, rest)
    | none => .error (.malformed .invalidEscape)

/-- Reads a string whose opening quote has been read.  There is fuel for as many steps as a list at
hand has members, which saves counting the text anew for every string. -/
def scanString : (fuel : List Char) → List Char → Except Error (List Char × List Char)
  | [], _ => .error (.truncated .string)
  | _ :: _, [] => .error (.truncated .string)
  | _ :: fuel, c :: rest =>
    if c = '"' then .ok ([], rest)
    else if c = '\\' then do
      let (x, rest) ← scanEscape rest
      let (xs, left) ← scanString fuel rest
      return (x :: xs, left)
    else if c.toNat < 0x20 then .error (.malformed .controlCharacter)
    else do
      let (xs, left) ← scanString fuel rest
      return (c :: xs, left)

/-- Reads a string whose opening quote has been read. -/
def readText (cs : List Char) : Except Error (String × List Char) := do
  let (xs, left) ← scanString cs cs
  return (String.ofList xs, left)

/-- Passes over what follows a backslash; codes need not make characters. -/
def skipEscape : List Char → Except Error (List Char)
  | [] => .error (.truncated .string)
  | 'u' :: rest => do
    let (_, left) ← scanHex rest
    return left
  | c :: rest => if (simpleEscape? c).isSome then .ok rest else .error (.malformed .invalidEscape)

/-- Passes over a string whose opening quote has been read. -/
def skipString : (fuel : List Char) → List Char → Except Error (List Char)
  | [], _ => .error (.truncated .string)
  | _ :: _, [] => .error (.truncated .string)
  | _ :: fuel, c :: rest =>
    if c = '"' then .ok rest
    else if c = '\\' then do
      let left ← skipEscape rest
      skipString fuel left
    else if c.toNat < 0x20 then .error (.malformed .controlCharacter)
    else skipString fuel rest

/-! ## Numbers -/

/-- A number as it is written, without its sign. -/
structure NumberText where
  whole : List Char
  fraction : Option (List Char) := none
  /-- Whether the exponent is negative, and its digits. -/
  exponent : Option (Bool × List Char) := none

/-- Splits digits off the front. -/
def spanDigits (cs : List Char) : List Char × List Char := cs.span Char.isDigit

/-- Reads the digits that have to follow a point or an exponent mark. -/
def scanDigits (cs : List Char) : Except Error (List Char × List Char) :=
  match spanDigits cs with
  | ([], rest) => unexpected .value .invalidNumber rest
  | (digits, rest) => .ok (digits, rest)

/-- Reads the digits before the point; a zero stands alone. -/
def scanWhole (cs : List Char) : Except Error (List Char × List Char) := do
  let (digits, rest) ← scanDigits cs
  match digits with
  | '0' :: _ :: _ => throw (.malformed .invalidNumber)
  | _ => return (digits, rest)

def scanFraction : List Char → Except Error (Option (List Char) × List Char)
  | '.' :: rest => do
    let (digits, left) ← scanDigits rest
    return (some digits, left)
  | cs => .ok (none, cs)

/-- Splits the sign of an exponent off the front. -/
def splitSign : List Char → Bool × List Char
  | '-' :: rest => (true, rest)
  | '+' :: rest => (false, rest)
  | cs => (false, cs)

def scanExponent : List Char → Except Error (Option (Bool × List Char) × List Char)
  | c :: rest =>
    if c = 'e' ∨ c = 'E' then do
      let (negative, rest) := splitSign rest
      let (digits, left) ← scanDigits rest
      return (some (negative, digits), left)
    else .ok (none, c :: rest)
  | [] => .ok (none, [])

def scanNumberText (cs : List Char) : Except Error (NumberText × List Char) := do
  let (whole, rest) ← scanWhole cs
  let (fraction, rest) ← scanFraction rest
  let (exponent, rest) ← scanExponent rest
  return ({ whole, fraction, exponent }, rest)

inductive Number where
  | integer (n : Int)
  | float (x : Float)

/-- The first digits of a number as long as they fit into 64 bits, and the power of ten by which
they are to be scaled. -/
structure Significand where
  digits : Nat := 0
  power : Int := 0
  /-- A digit did not fit. -/
  full : Bool := false

namespace Significand

def digitValue (c : Char) : Nat := c.toNat - '0'.toNat

/-- Takes in a digit before the point.  Once a digit does not fit, it and those behind it only
count as a power of ten. -/
def pushWhole (s : Significand) (c : Char) : Significand :=
  let n := s.digits * 10 + digitValue c
  if s.full || n ≥ UInt64.size then { s with power := s.power + 1, full := true }
  else { s with digits := n }

/-- Takes in digits behind the point until one does not fit. -/
def pushFraction (s : Significand) : List Char → Significand
  | [] => s
  | c :: rest =>
    let n := s.digits * 10 + digitValue c
    if n ≥ UInt64.size then s
    else pushFraction { s with digits := n, power := s.power - 1 } rest

end Significand

/-- A power of ten as a floating-point number. -/
def powerOfTen (k : Nat) : Float := Float.ofScientific 1 false k

/-- Scales a number by a power of ten.  A factor beyond the range of floating-point numbers is
applied in several steps; a result beyond it is an error. -/
def scaleByTen : (fuel : Nat) → Float → Int → Option Float
  | 0, x, _ => some x
  | fuel + 1, x, power =>
    if power.natAbs ≤ 308 then
      if power ≥ 0 then
        let y := x * powerOfTen power.toNat
        if y.isInf then none else some y
      else some (x / powerOfTen power.natAbs)
    else if x == 0.0 then some x
    else if power ≥ 0 then none
    else scaleByTen fuel (x / powerOfTen 308) (power + 308)

def withSign (negative : Bool) (x : Float) : Float := if negative then -x else x

/-- The number of digits of an exponent that matter: with one as large as this, every number is
zero or out of range. -/
def maxExponent : Nat := UInt32.size / 2

/-- The value of a number.  Whole numbers of at most 64 bits are exact, except that a negative zero
is a floating-point number; all others are rounded. -/
def NumberText.value? (negative : Bool) (t : NumberText) : Option Number :=
  let whole := t.whole.foldl Significand.pushWhole {}
  match t.fraction, t.exponent with
  | none, none =>
    if whole.full then
      (scaleByTen 8 whole.digits.toUInt64.toFloat whole.power).map fun x =>
        .float (withSign negative x)
    else if !negative then some (.integer whole.digits)
    else if whole.digits = 0 ∨ whole.digits > UInt64.size / 2 then
      some (.float (-whole.digits.toUInt64.toFloat))
    else some (.integer (-(whole.digits : Int)))
  | fraction, exponent =>
    let s := whole.pushFraction (fraction.getD [])
    let x := s.digits.toUInt64.toFloat
    let float (y : Option Float) := y.map fun y => Number.float (withSign negative y)
    match exponent with
    | none => float (scaleByTen 8 x s.power)
    | some (small, digits) =>
      let n := digits.foldl (fun n c => n * 10 + Significand.digitValue c) 0
      if n ≥ maxExponent then
        if s.digits ≠ 0 ∧ !small then none else float (some 0.0)
      else float (scaleByTen 8 x (if small then s.power - n else s.power + n))

def readNumber (negative : Bool) (cs : List Char) : Except Error (Number × List Char) := do
  let (text, rest) ← scanNumberText cs
  match text.value? negative with
  | some n => return (n, rest)
  | none => throw (.malformed .numberOutOfRange)

/-- Passes over a number behind its sign, which may be out of range.  One that ends early counts as
malformed. -/
def skipNumber (cs : List Char) : Except Error (List Char) :=
  match scanNumberText cs with
  | .ok (_, rest) => .ok rest
  | .error _ => .error (.malformed .invalidNumber)

end RegexInference.Json
