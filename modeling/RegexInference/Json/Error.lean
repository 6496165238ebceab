import RegexInference.Decimal.Layout
import RegexInference.Text.Quoted

/-!
# Errors of reading

A document fails to be read in one of three ways: it breaks the rules of the format, it ends early,
or it is well formed but does not fit what is to be read.
-/

namespace RegexInference.Json

/-- How a text breaks the rules of the format. -/
inductive Fault where
  | expectedColon
  | expectedListEnd
  | expectedObjectEnd
  | expectedWord
  | expectedValue
  | invalidEscape
  | invalidNumber
  | numberOutOfRange
  | controlCharacter
  | keyNotString
  | loneSurrogate
  | unpairedSurrogate
  | trailingComma
  | trailingCharacters
  | tooDeep
  deriving DecidableEq, Repr

/-- What a text that ends early was in the middle of. -/
inductive Place where
  | value
  | list
  | object
  | string
  deriving DecidableEq, Repr

/-- What was found in the place of something else. -/
inductive Found where
  | integer (n : Int)
  | float (x : Float)
  | string (text : String)
  | boolean (b : Bool)
  | null
  | sequence
  | map

/-- How a well-formed document does not fit. -/
inductive Mismatch where
  | wrongType (found : Found) (expected : String)
  | wrongValue (found : Found) (expected : String)
  | wrongLength (found : Nat) (expected : String)
  | missingField (name : String)
  | duplicateField (name : String)
  | unknownVariant (name : String) (known : List String)

/-- Why a document was not read. -/
inductive Error where
  | malformed (fault : Fault)
  | truncated (place : Place)
  | mismatch (cause : Mismatch)

def Fault.message : Fault → String
  | expectedColon => "expected `:`"
  | expectedListEnd => "expected `,` or `]`"
  | expectedObjectEnd => "expected `,` or `\x7d`"
  | expectedWord => "expected ident"
  | expectedValue => "expected value"
  | invalidEscape => "invalid escape"
  | invalidNumber => "invalid number"
  | numberOutOfRange => "number out of range"
  | controlCharacter =>
    "control character (\\u0000-\\u001F) found while parsing a string"
  | keyNotString => "key must be a string"
  | loneSurrogate => "lone leading surrogate in hex escape"
  | unpairedSurrogate => "unexpected end of hex escape"
  | trailingComma => "trailing comma"
  | trailingCharacters => "trailing characters"
  | tooDeep => "recursion limit exceeded"

def Place.message : Place → String
  | value => "EOF while parsing a value"
  | list => "EOF while parsing a list"
  | object => "EOF while parsing an object"
  | string => "EOF while parsing a string"

def Found.describe : Found → String
  | integer n => "integer `" ++ toString n ++ "`"
  | float x => "floating point `" ++ Decimal.Layout.document.write x ++ "`"
  | string text => "string " ++ Text.quoted text
  | boolean b => "boolean `" ++ (if b then "true" else "false") ++ "`"
  | null => "null"
  | sequence => "sequence"
  | map => "map"

/-- The names that were expected, each in backquotes. -/
def describeNames (names : List String) : String :=
  let quoted := names.map fun name => "`" ++ name ++ "`"
  match quoted with
  | [] => "there are no variants"
  | [a] => "expected " ++ a
  | [a, b] => "expected " ++ a ++ " or " ++ b
  | _ => "expected one of " ++ String.intercalate ", " quoted

def Mismatch.message : Mismatch → String
  | wrongType found expected => "invalid type: " ++ found.describe ++ ", expected " ++ expected
  | wrongValue found expected => "invalid value: " ++ found.describe ++ ", expected " ++ expected
  | wrongLength found expected =>
    "invalid length " ++ toString found ++ ", expected " ++ expected
  | missingField name => "missing field `" ++ name ++ "`"
  | duplicateField name => "duplicate field `" ++ name ++ "`"
  | unknownVariant name known => "unknown variant `" ++ name ++ "`, " ++ describeNames known

def Error.message : Error → String
  | malformed fault => fault.message
  | truncated place => place.message
  | mismatch cause => cause.message

end RegexInference.Json
