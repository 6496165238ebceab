import RegexInference.Regex.Parse
import RegexInference.Regex.Search
import RegexInference.Regex.Size
import RegexInference.Text.Quoted

/-!
# Matchers

A pattern text is compiled into a matcher once, which is then asked about texts.  In span mode the
pattern is looked for anywhere in a text; in classic mode it has to account for the whole text.
-/

namespace RegexInference

/-- How a pattern is held against a text. -/
inductive MatchMode where
  /-- The whole text is accepted or rejected. -/
  | classic
  /-- Matches are looked for anywhere and measured by their length. -/
  | span
  deriving DecidableEq, Repr

/-- Why a pattern text does not compile. -/
inductive PatternError where
  | empty
  /-- The text breaks the rules of the pattern language. -/
  | malformed (source : String)
  /-- The program would be too large. -/
  | tooLarge (source : String)
  deriving DecidableEq, Repr

/-- The message up to the place where the reason follows. -/
def PatternError.message : PatternError → String
  | empty => "Empty pattern"
  | malformed source => "Invalid pattern " ++ Text.quoted source ++ ": "
  | tooLarge source => "Invalid pattern " ++ Text.quoted source ++ ": "

/-- A pattern that compiled. -/
structure Matcher where
  mode : MatchMode
  /-- The program that is searched for: that of the pattern as written, or in classic mode that of
  the pattern between anchors. -/
  program : Regex.Program
  /-- The program of the pattern between anchors, if this compiles. -/
  entire : Thunk (Option Regex.Program)

namespace Matcher

/-- The text of a pattern that is held between the start and the end of the text. -/
def entireSource (source : List Char) : List Char :=
  "^(?:".toList ++ source ++ ")$".toList

/-- The program of one text; failures are reported about `source`. -/
def programOf (text : List Char) (source : String) : Except PatternError Regex.Program :=
  match Regex.parse? text with
  | none => .error (.malformed source)
  | some r => if r.fits then .ok r.toProgram else .error (.tooLarge source)

/-- Compiles a pattern.  The text as written is compiled in either mode, so that anchoring cannot
turn a fragment into a pattern. -/
def ofPattern (source : String) (mode : MatchMode) : Except PatternError Matcher := do
  if source.isEmpty then throw .empty
  let plain ← programOf source.toList source
  match mode with
  | .span =>
    let entire := Thunk.mk fun _ => (programOf (entireSource source.toList) source).toOption
    return { mode, program := plain, entire }
  | .classic =>
    let program ← programOf (entireSource source.toList) source
    return { mode, program, entire := Thunk.pure (some program) }

/-- Whether the text is accepted under the pattern's mode. -/
def accepts (p : Matcher) (text : String) : Bool :=
  p.program.accepts text.toList.toArray

/-- The most characters in a single match. -/
def longestMatch (p : Matcher) (text : String) : Nat :=
  p.program.longestMatch text.toList.toArray

/-- Whether the pattern can match all of the text. -/
def matchesEntire (p : Matcher) (text : String) : Bool :=
  p.entire.get.any (·.accepts text.toList.toArray)

end Matcher

end RegexInference
