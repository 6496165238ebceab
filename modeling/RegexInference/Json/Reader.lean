import RegexInference.Json.Scan
import RegexInference.Json.Value

/-!
# Readers

A reader takes a value of a certain kind off the front of a text.  Readers work from left to right,
so the first thing that is wrong decides what the error is, whether it breaks the rules of the
format or merely does not fit.

A reader is given the number of levels that arrays and objects may still be nested.
-/

namespace RegexInference.Json

/-- Reads a value, given how many levels it may be nested. -/
def Reader (α : Type) := (depth : Nat) → List Char → Except Error (α × List Char)

/-- How deep documents may be nested, counting the level that may no longer be entered. -/
def maxDepth : Nat := 128

/-- The error of a value of the wrong kind.  Its text is still read as far as it takes to say what
it is. -/
def wrongType {α : Type} (expected : String) (cs : List Char) : Except Error α :=
  let mismatch (found : Found) : Except Error α := .error (.mismatch (.wrongType found expected))
  let ofNumber : Number → Found
    | .integer n => .integer n
    | .float x => .float x
  match cs with
  | [] => .error (.truncated .value)
  | 'n' :: rest => do
    let _ ← scanWord "ull".toList rest
    mismatch .null
  | 't' :: rest => do
    let _ ← scanWord "rue".toList rest
    mismatch (.boolean true)
  | 'f' :: rest => do
    let _ ← scanWord "alse".toList rest
    mismatch (.boolean false)
  | '"' :: rest => do
    let (text, _) ← readText rest
    mismatch (.string text)
  | '[' :: _ => mismatch .sequence
  | '{' :: _ => mismatch .map
  | '-' :: rest => do
    let (n, _) ← readNumber true rest
    mismatch (ofNumber n)
  | c :: rest =>
    if c.isDigit then do
      let (n, _) ← readNumber false (c :: rest)
      mismatch (ofNumber n)
    else .error (.malformed .expectedValue)

namespace Reader

def string : Reader String := fun _ cs =>
  match skipBlanks cs with
  | '"' :: rest => readText rest
  | cs => wrongType "a string" cs

def boolean : Reader Bool := fun _ cs =>
  match skipBlanks cs with
  | 't' :: rest => do
    let left ← scanWord "rue".toList rest
    return (true, left)
  | 'f' :: rest => do
    let left ← scanWord "alse".toList rest
    return (false, left)
  | cs => wrongType "a boolean" cs

def number {α : Type} (expected : String) (convert : Number → Except Mismatch α) : Reader α :=
  fun _ cs =>
    let read (negative : Bool) (digits : List Char) : Except Error (α × List Char) := do
      let (n, left) ← readNumber negative digits
      match convert n with
      | .ok x => return (x, left)
      | .error cause => throw (.mismatch cause)
    match skipBlanks cs with
    | '-' :: rest => read true rest
    | [] => wrongType expected []
    | c :: rest => if c.isDigit then read false (c :: rest) else wrongType expected (c :: rest)

/-- A whole number below a limit. -/
def natural (limit : Nat) (expected : String) : Reader Nat :=
  number expected fun
    | .integer n =>
      if 0 ≤ n ∧ n < limit then .ok n.toNat else .error (.wrongValue (.integer n) expected)
    | .float x => .error (.wrongType (.float x) expected)

def float : Reader Float :=
  number "f64" fun
    | .integer n =>
      .ok (if n < 0 then -(n.natAbs.toUInt64.toFloat) else n.toNat.toUInt64.toFloat)
    | .float x => .ok x

def optional {α : Type} (reader : Reader α) : Reader (Option α) := fun depth cs =>
  match skipBlanks cs with
  | 'n' :: rest => do
    let left ← scanWord "ull".toList rest
    return (none, left)
  | cs => do
    let (x, left) ← reader depth cs
    return (some x, left)

/-- Enters an array or object, which takes one level. -/
def enter {α : Type} (depth : Nat) (inner : (depth : Nat) → Except Error α) : Except Error α :=
  if depth ≤ 1 then .error (.malformed .tooDeep) else inner (depth - 1)

/-! ## Arrays -/

/-- Steps to the next item of an array, or to the bracket that closes it. -/
def nextItem (first : Bool) (cs : List Char) : Except Error (Bool × List Char) :=
  match skipBlanks cs with
  | [] => .error (.truncated .list)
  | c :: rest =>
    if c = ']' then .ok (false, c :: rest)
    else if first then .ok (true, c :: rest)
    else if c = ',' then
      match skipBlanks rest with
      | [] => .error (.truncated .value)
      | ']' :: _ => .error (.malformed .trailingComma)
      | more => .ok (true, more)
    else .error (.malformed .expectedListEnd)

/-- Closes an array.  Further items are not allowed. -/
def closeArray (cs : List Char) : Except Error (List Char) :=
  match skipBlanks cs with
  | [] => .error (.truncated .list)
  | ']' :: rest => .ok rest
  | ',' :: rest =>
    match skipBlanks rest with
    | ']' :: _ => .error (.malformed .trailingComma)
    | _ => .error (.malformed .trailingCharacters)
  | _ => .error (.malformed .trailingCharacters)

/-- Reads the items of an array behind its opening bracket. -/
def itemsFrom {α : Type} (reader : Reader α) (depth : Nat) :
    (fuel : Nat) → (first : Bool) → List Char → Except Error (List α × List Char)
  | 0, _, _ => .error (.truncated .list)
  | fuel + 1, first, cs => do
    let (more, rest) ← nextItem first cs
    if more then
      let (x, rest) ← reader depth rest
      let (xs, left) ← itemsFrom reader depth fuel false rest
      return (x :: xs, left)
    else return ([], rest)

def list {α : Type} (reader : Reader α) : Reader (List α) := fun depth cs =>
  match skipBlanks cs with
  | '[' :: rest =>
    enter depth fun depth => do
      let (xs, rest) ← itemsFrom reader depth (rest.length + 1) true rest
      let left ← closeArray rest
      return (xs, left)
  | cs => wrongType "a sequence" cs

def pair {α β : Type} (first : Reader α) (second : Reader β) : Reader (α × β) := fun depth cs =>
  let expected := "a tuple of size 2"
  match skipBlanks cs with
  | '[' :: rest =>
    enter depth fun depth => do
      let (more, rest) ← nextItem true rest
      if !more then throw (.mismatch (.wrongLength 0 expected))
      let (x, rest) ← first depth rest
      let (more, rest) ← nextItem false rest
      if !more then throw (.mismatch (.wrongLength 1 expected))
      let (y, rest) ← second depth rest
      let left ← closeArray rest
      return ((x, y), left)
  | cs => wrongType expected cs

/-! ## Objects -/

/-- Reads a key at the place where one has to stand. -/
def readKey : List Char → Except Error (Option String × List Char)
  | [] => .error (.truncated .value)
  | '"' :: rest => do
    let (key, left) ← readText rest
    return (some key, left)
  | _ => .error (.malformed .keyNotString)

/-- Steps to the next key of an object and reads it, or stops at the brace that closes the
object. -/
def nextKey (first : Bool) (cs : List Char) : Except Error (Option String × List Char) :=
  match skipBlanks cs with
  | [] => .error (.truncated .object)
  | c :: rest =>
    if c = '}' then .ok (none, c :: rest)
    else if first then readKey (c :: rest)
    else if c = ',' then
      match skipBlanks rest with
      | '}' :: _ => .error (.malformed .trailingComma)
      | more => readKey more
    else .error (.malformed .expectedObjectEnd)

def readColon (cs : List Char) : Except Error (List Char) :=
  match skipBlanks cs with
  | ':' :: rest => .ok rest
  | rest => unexpected .object .expectedColon rest

/-- Closes an object.  Further members are not allowed. -/
def closeObject (cs : List Char) : Except Error (List Char) :=
  match skipBlanks cs with
  | [] => .error (.truncated .object)
  | '}' :: rest => .ok rest
  | ',' :: _ => .error (.malformed .trailingComma)
  | _ => .error (.malformed .trailingCharacters)

/-! ## Unit variants -/

/-- The value that a variant name stands for. -/
def variantOf {α : Type} (known : List (String × α)) (name : String) : Except Error α :=
  match known.find? (·.1 == name) with
  | some (_, x) => .ok x
  | none => .error (.mismatch (.unknownVariant name (known.map Prod.fst)))

/-- One of several names, as a string or as the only key of an object with the value `null`. -/
def variant {α : Type} (known : List (String × α)) : Reader α := fun depth cs =>
  match skipBlanks cs with
  | [] => .error (.truncated .value)
  | '"' :: rest => do
    let (name, left) ← readText rest
    let x ← variantOf known name
    return (x, left)
  | '{' :: rest =>
    enter depth fun _ => do
      let (name, rest) ←
        match skipBlanks rest with
        | '"' :: rest => readText rest
        | rest => wrongType "variant identifier" rest
      let x ← variantOf known name
      let rest ← readColon rest
      let rest ←
        match skipBlanks rest with
        | 'n' :: rest => scanWord "ull".toList rest
        | rest => wrongType "unit" rest
      match skipBlanks rest with
      | '}' :: left => return (x, left)
      | rest => unexpected .object .expectedValue rest
  | _ => .error (.malformed .expectedValue)

/-! ## Any value -/

/-- What is expected next while a value is passed over. -/
inductive SkipState where
  | value
  /-- The first item or member, or the end. -/
  | opened
  | key
  /-- A comma or the end. -/
  | behind

/-- Passes over a value.  The stack says of each open array or object, the innermost first, whether
it is an object. -/
def skipFrom : (fuel : Nat) → SkipState → (stack : List Bool) → List Char →
    Except Error (List Char)
  | 0, _, _, _ => .error (.truncated .value)
  | _ + 1, .behind, [], cs => .ok cs
  | fuel + 1, .behind, isObject :: stack, cs =>
    match skipBlanks cs with
    | [] => .error (.truncated (if isObject then .object else .list))
    | ',' :: rest => skipFrom fuel (if isObject then .key else .value) (isObject :: stack) rest
    | c :: rest =>
      if c = (if isObject then '}' else ']') then skipFrom fuel .behind stack rest
      else .error (.malformed (if isObject then .expectedObjectEnd else .expectedListEnd))
  | fuel + 1, .opened, stack, cs =>
    let isObject := stack.headD false
    match skipBlanks cs with
    | [] => .error (.truncated (if isObject then .object else .list))
    | c :: rest =>
      if c = (if isObject then '}' else ']') then skipFrom fuel .behind stack.tail rest
      else skipFrom fuel (if isObject then .key else .value) stack (c :: rest)
  | fuel + 1, .key, stack, cs =>
    match skipBlanks cs with
    | '"' :: rest => do
      let rest ← skipString rest rest
      skipFrom fuel .value stack (← readColon rest)
    | left => unexpected .object .keyNotString left
  | fuel + 1, .value, stack, cs =>
    match skipBlanks cs with
    | [] => .error (.truncated .value)
    | 'n' :: rest => do skipFrom fuel .behind stack (← scanWord "ull".toList rest)
    | 't' :: rest => do skipFrom fuel .behind stack (← scanWord "rue".toList rest)
    | 'f' :: rest => do skipFrom fuel .behind stack (← scanWord "alse".toList rest)
    | '"' :: rest => do skipFrom fuel .behind stack (← skipString rest rest)
    | '[' :: rest => skipFrom fuel .opened (false :: stack) rest
    | '{' :: rest => skipFrom fuel .opened (true :: stack) rest
    | '-' :: rest => do skipFrom fuel .behind stack (← skipNumber rest)
    | c :: rest =>
      if c.isDigit then do skipFrom fuel .behind stack (← skipNumber (c :: rest))
      else .error (.malformed .expectedValue)

/-- Passes over a value of any kind, however deep. -/
def skip : Reader Unit := fun _ cs => do
  let left ← skipFrom (3 * cs.length + 3) .value [] cs
  return ((), left)

/-- Reads the members of an object behind its opening brace. -/
def membersFrom {α : Type} (reader : Reader α) (depth : Nat) :
    (fuel : Nat) → (first : Bool) → List Char →
      Except Error (List (String × α) × List Char)
  | 0, _, _ => .error (.truncated .object)
  | fuel + 1, first, cs => do
    match ← nextKey first cs with
    | (none, left) => return ([], left)
    | (some key, rest) =>
      let (x, rest) ← reader depth (← readColon rest)
      let (ms, left) ← membersFrom reader depth fuel false rest
      return ((key, x) :: ms, left)

def anyNumber (negative : Bool) (cs : List Char) : Except Error (Value × List Char) := do
  match ← readNumber negative cs with
  | (.integer n, left) => return (.integer n, left)
  | (.float x, left) => return (.float x, left)

def anyValue : Reader Value
  | 0, _ => .error (.malformed .tooDeep)
  | depth + 1, cs =>
    match skipBlanks cs with
    | [] => .error (.truncated .value)
    | 'n' :: rest => do return (.null, ← scanWord "ull".toList rest)
    | 't' :: rest => do return (.boolean true, ← scanWord "rue".toList rest)
    | 'f' :: rest => do return (.boolean false, ← scanWord "alse".toList rest)
    | '"' :: rest => do
      let (text, left) ← readText rest
      return (.string text, left)
    | '[' :: rest =>
      if depth = 0 then .error (.malformed .tooDeep)
      else do
        let (xs, rest) ← itemsFrom (fun _ => anyValue depth) depth (rest.length + 1) true rest
        return (.array xs, ← closeArray rest)
    | '{' :: rest =>
      if depth = 0 then .error (.malformed .tooDeep)
      else do
        let (ms, rest) ← membersFrom (fun _ => anyValue depth) depth (rest.length + 1) true rest
        return (.object ms, ← closeObject rest)
    | '-' :: rest => anyNumber true rest
    | c :: rest =>
      if c.isDigit then anyNumber false (c :: rest) else .error (.malformed .expectedValue)

/-- Reads a whole text as one value, with nothing but blanks behind it. -/
def run {α : Type} (reader : Reader α) (text : String) : Except Error α := do
  let (x, rest) ← reader maxDepth text.toList
  match skipBlanks rest with
  | [] => return x
  | _ => throw (.malformed .trailingCharacters)

end Reader

end RegexInference.Json
