import RegexInference.Json.Error

/-!
# Documents and how they are written

A document is a tree of values.  It is written without blanks, or over several lines with two blanks
for each level.
-/

namespace RegexInference.Json

inductive Value where
  | null
  | boolean (b : Bool)
  | integer (n : Int)
  | float (x : Float)
  | string (text : String)
  | array (items : List Value)
  | object (members : List (String × Value))

/-- A hexadecimal digit in lower case. -/
def hexDigit (n : Nat) : Char :=
  if n < 10 then Char.ofNat ('0'.toNat + n) else Char.ofNat ('a'.toNat + n - 10)

/-- One character inside a string. -/
def escapeChar (c : Char) : List Char :=
  if c = '"' then ['\\', '"']
  else if c = '\\' then ['\\', '\\']
  else if c.toNat = 0x08 then ['\\', 'b']
  else if c.toNat = 0x0C then ['\\', 'f']
  else if c = '\n' then ['\\', 'n']
  else if c = '\r' then ['\\', 'r']
  else if c = '\t' then ['\\', 't']
  else if c.toNat < 0x20 then
    ['\\', 'u', '0', '0', hexDigit (c.toNat / 16), hexDigit (c.toNat % 16)]
  else [c]

def writeString (text : String) : List Char :=
  '"' :: (text.toList.flatMap escapeChar ++ ['"'])

namespace Value

mutual

/-- The text of a document without blanks. -/
def compact : Value → List Char
  | null => "null".toList
  | boolean b => if b then "true".toList else "false".toList
  | integer n => (toString n).toList
  | float x => (Decimal.Layout.document.write x).toList
  | string text => writeString text
  | array items => '[' :: (compactItems items ++ [']'])
  | object members => '{' :: (compactMembers members ++ ['}'])

/-- The items of an array with commas between them. -/
def compactItems : List Value → List Char
  | [] => []
  | [v] => v.compact
  | v :: rest => v.compact ++ ',' :: compactItems rest

/-- The members of an object with commas between them. -/
def compactMembers : List (String × Value) → List Char
  | [] => []
  | [(key, v)] => writeString key ++ ':' :: v.compact
  | (key, v) :: rest => writeString key ++ ':' :: (v.compact ++ ',' :: compactMembers rest)

end

/-- A new line with two blanks for each level. -/
def newLine (level : Nat) : List Char := '\n' :: List.replicate (2 * level) ' '

mutual

/-- The text of a document over several lines.  Empty arrays and objects stay on one line. -/
def pretty (level : Nat) : Value → List Char
  | array [] => ['[', ']']
  | array (v :: rest) => '[' :: (prettyItems (level + 1) (v :: rest) ++ newLine level ++ [']'])
  | object [] => ['{', '}']
  | object (m :: rest) => '{' :: (prettyMembers (level + 1) (m :: rest) ++ newLine level ++ ['}'])
  | null => "null".toList
  | boolean b => if b then "true".toList else "false".toList
  | integer n => (toString n).toList
  | float x => (Decimal.Layout.document.write x).toList
  | string text => writeString text

/-- The items of an array, each on a line of its own. -/
def prettyItems (level : Nat) : List Value → List Char
  | [] => []
  | [v] => newLine level ++ v.pretty level
  | v :: rest => newLine level ++ v.pretty level ++ ',' :: prettyItems level rest

/-- The members of an object, each on a line of its own. -/
def prettyMembers (level : Nat) : List (String × Value) → List Char
  | [] => []
  | [(key, v)] => newLine level ++ writeString key ++ ':' :: ' ' :: v.pretty level
  | (key, v) :: rest =>
    newLine level ++ writeString key ++ ':' :: ' ' :: (v.pretty level ++
      ',' :: prettyMembers level rest)

end

def toCompact (v : Value) : String := String.ofList v.compact

def toPretty (v : Value) : String := String.ofList (v.pretty 0)

def strings (texts : List String) : Value := array (texts.map string)

end Value

end RegexInference.Json
