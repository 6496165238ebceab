import RegexInference.Random.Source
import RegexInference.Regex.Escaped

/-!
# Symbols and the alphabet

A symbol is a token of the caller's alphabet.  Literal text is escaped when it is written into a
pattern; a special symbol is pattern syntax and written as it is.
-/

namespace RegexInference

/-- The smallest part of a candidate. -/
inductive Symbol where
  /-- Text to be matched as it is. -/
  | literal (text : String)
  /-- Pattern syntax: a quantifier, a shorthand, an anchor, a bracket. -/
  | special (token : String)
  deriving DecidableEq, Repr

namespace Symbol

/-- Characters that are pattern syntax when they are a token of their own. -/
def isSpecialChar (c : Char) : Bool :=
  "*+?.^$|()[]\x7b\x7d".toList.contains c

/-- The backslashes at the end are odd in number, so the last one would escape whatever follows. -/
def endsInOpenEscape (token : List Char) : Bool :=
  (token.reverse.takeWhile (· == '\\')).length % 2 == 1

/-- Whether a token is pattern syntax. -/
def isSpecialToken (token : List Char) : Bool :=
  match token with
  | [c] => isSpecialChar c
  | '\\' :: _ :: _ => !endsInOpenEscape token
  | _ => false

/-- Classifies a token.  It is pattern syntax when it is a single syntax character, or when it
begins with a backslash and leaves no escape open. -/
def ofToken (token : String) : Symbol :=
  if isSpecialToken token.toList then .special token else .literal token

def text : Symbol → String
  | literal text => text
  | special token => token

def toPattern : Symbol → String
  | literal text => Regex.escaped text
  | special token => token

end Symbol

/-- The symbols that mutations may use, in order and without repetition. -/
structure Alphabet where
  symbols : List Symbol
  deriving DecidableEq, Repr

namespace Alphabet

/-- Adds the symbol of a token unless it is there already.  Empty tokens are dropped. -/
def addToken (symbols : List Symbol) (token : String) : List Symbol :=
  if token.isEmpty then symbols
  else
    let symbol := Symbol.ofToken token
    if symbols.contains symbol then symbols else symbols ++ [symbol]

/-- The alphabet of some tokens, each at its first place. -/
def ofTokens (tokens : List String) : Alphabet := ⟨tokens.foldl addToken []⟩

end Alphabet

end RegexInference
