import RegexInference.Unicode.CaseFolding
import RegexInference.Unicode.Category
import RegexInference.Unicode.Contributory
import RegexInference.Unicode.Recent

/-!
# Derived properties

The classes and properties that follow from the general categories and the contributory
properties: letters, word characters, identifiers, what case mappings change.
-/

namespace RegexInference.Unicode

open CodeSet

/-! ## Groups of categories -/

def casedLetter : CodeSet :=
  unionAll [Category.uppercaseLetter, Category.lowercaseLetter, Category.titlecaseLetter]

def letter : CodeSet :=
  unionAll [casedLetter, Category.modifierLetter, Category.otherLetter]

def mark : CodeSet :=
  unionAll [Category.nonspacingMark, Category.spacingMark, Category.enclosingMark]

def number : CodeSet :=
  unionAll [Category.decimalNumber, Category.letterNumber, Category.otherNumber]

def punctuation : CodeSet :=
  unionAll [Category.connectorPunctuation, Category.dashPunctuation, Category.openPunctuation,
    Category.closePunctuation, Category.initialPunctuation, Category.finalPunctuation,
    Category.otherPunctuation]

def symbol : CodeSet :=
  unionAll [Category.mathSymbol, Category.currencySymbol, Category.modifierSymbol,
    Category.otherSymbol]

def separator : CodeSet :=
  unionAll [Category.spaceSeparator, Category.lineSeparator, Category.paragraphSeparator]

/-- Characters that stand for themselves: of some category that is not a separator, a control, a
format character or private use. -/
def graphic : CodeSet := unionAll [letter, mark, number, punctuation, symbol]

/-- The characters of some general category. -/
def assigned : CodeSet :=
  unionAll [graphic, separator, Category.control, Category.format, Category.privateUse]

/-! ## Letters and words -/

/-- Letters, letter numbers and the other characters with the Alphabetic property. -/
def alphabetic : CodeSet :=
  unionAll [letter, Category.letterNumber, Contributory.otherAlphabetic]

def lowercase : CodeSet := union Category.lowercaseLetter Contributory.otherLowercase

def uppercase : CodeSet := union Category.uppercaseLetter Contributory.otherUppercase

def cased : CodeSet := unionAll [lowercase, uppercase, Category.titlecaseLetter]

/-- Word characters: alphabetic characters, marks, decimal digits, connectors such as the
underscore, and the two join controls. -/
def word : CodeSet :=
  unionAll [alphabetic, mark, Category.decimalNumber, Category.connectorPunctuation,
    Contributory.joinControl]

def asciiDigit : CodeSet := range 0x30 0x39

/-- Tab, line feed, vertical tab, form feed, carriage return and the space. -/
def asciiSpace : CodeSet := union (range 0x09 0x0D) (single 0x20)

def asciiWord : CodeSet :=
  unionAll [asciiDigit, range 0x41 0x5A, single 0x5F, range 0x61 0x7A]

def isSpace (code : Nat) : Bool := Contributory.whiteSpace.contains code

/-- Alphabetic characters, the recent ones among them. -/
def isAlphabetic (code : Nat) : Bool :=
  alphabetic.contains code || Recent.alphabetic.contains code

/-- Alphabetic characters and numbers of any kind, the recent ones among them. -/
def isAlphanumeric (code : Nat) : Bool :=
  isAlphabetic code || number.contains code || Recent.number.contains code

/-! ## Case -/

def caseIgnorable : CodeSet :=
  unionAll [Category.nonspacingMark, Category.enclosingMark, Category.format,
    Category.modifierLetter, Category.modifierSymbol, Contributory.otherCaseIgnorable]

/-- The capital letter I with a dot has a lower case of two characters. -/
def changesWhenLowercased : CodeSet :=
  union (inter (union uppercase Category.titlecaseLetter) inCaseRing) (single 0x130)

def changesWhenUppercased : CodeSet :=
  union (inter (union lowercase Category.titlecaseLetter) inCaseRing)
    Contributory.expandsInUppercase

/-- Georgian letters have no titlecase of their own.  The digraphs DŽ, LJ, NJ and DZ have one that
differs from their upper case. -/
def changesWhenTitlecased : CodeSet :=
  unionAll [
    diff (inter lowercase inCaseRing) (union (range 0x10D0 0x10FA) (range 0x10FD 0x10FF)),
    Contributory.expandsInUppercase,
    single 0x1C4, single 0x1C7, single 0x1CA, single 0x1F1]

/-- Cherokee folds to its capital letters. -/
def changesWhenCasefolded : CodeSet :=
  union (diff changesWhenLowercased (range 0x13A0 0x13F5)) Contributory.foldsThoughLowercase

def changesWhenCasemapped : CodeSet :=
  unionAll [changesWhenLowercased, changesWhenUppercased, changesWhenTitlecased]

/-! ## Graphemes and identifiers -/

def graphemeExtend : CodeSet :=
  unionAll [Category.nonspacingMark, Category.enclosingMark, Contributory.otherGraphemeExtend]

def graphemeBase : CodeSet := diff (union graphic Category.spaceSeparator) graphemeExtend

/-- Interlinear annotations and Egyptian format controls are visible. -/
def defaultIgnorable : CodeSet :=
  union Contributory.otherDefaultIgnorable
    (diff (union Category.format Contributory.variationSelector)
      (unionAll [Contributory.whiteSpace, range 0xFFF9 0xFFFB, range 0x13430 0x13440,
        Contributory.prependedConcatenationMark]))

def idStart : CodeSet :=
  diff (unionAll [letter, Category.letterNumber, Contributory.otherIdStart])
    (union Contributory.patternSyntax Contributory.patternWhiteSpace)

def idContinue : CodeSet :=
  unionAll [idStart, Category.nonspacingMark, Category.spacingMark, Category.decimalNumber,
    Category.connectorPunctuation, Contributory.otherIdContinue]

def xidStart : CodeSet := diff idStart Contributory.notXidStart

def xidContinue : CodeSet := diff idContinue Contributory.notXidContinue

def math : CodeSet := union Category.mathSymbol Contributory.otherMath

end RegexInference.Unicode
