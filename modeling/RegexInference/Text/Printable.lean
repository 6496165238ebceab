import RegexInference.Unicode.Derived

/-!
# Printable characters

Which characters may stand as themselves in a quoted message.
-/

namespace RegexInference.Text

open Unicode

/-- Characters that leave no mark of their own: those that attach to the character before them, and
those that are not displayed at all. -/
def unmarked : CodeSet :=
  CodeSet.unionAll [graphemeExtend, Recent.graphemeExtend, defaultIgnorable]

/-- Characters that are shown as themselves.  The space is the only blank among them. -/
def printable : CodeSet :=
  CodeSet.unionAll [CodeSet.single 0x20, (graphic.union Recent.all).diff unmarked]

/-- Whether a character is shown as itself. -/
def isPrintable (c : Char) : Bool := printable.contains c.toNat

end RegexInference.Text
