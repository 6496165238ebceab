/-!
# Writing text as a pattern

A text is written as a pattern that matches it and nothing else by a backslash before every
character that would mean something.
-/

namespace RegexInference.Regex

/-- Punctuation that means something in a pattern, and is literal behind a backslash. -/
def isMeta (c : Char) : Bool :=
  "\\.+*?()|[]\x7b\x7d^$#&-~".toList.contains c

/-- A character as pattern text. -/
def escapeChar (c : Char) : List Char := if isMeta c then ['\\', c] else [c]

def escaped (text : String) : String := String.ofList (text.toList.flatMap escapeChar)

end RegexInference.Regex
