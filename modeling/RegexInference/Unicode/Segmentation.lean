import RegexInference.Unicode.Derived
import RegexInference.Unicode.Script

/-!
# Text segmentation

How characters behave where a text is cut into graphemes, words and sentences.  Most classes follow
from the general categories and a few exceptions.
-/

namespace RegexInference.Unicode.Segmentation

open CodeSet

def runs (bounds : List (Nat × Nat)) : CodeSet :=
  unionAll (bounds.map fun run => range run.1 run.2)

def carriageReturn : CodeSet := single 0x0D

def lineFeed : CodeSet := single 0x0A

def zeroWidthJoiner : CodeSet := single 0x200D

/-- Format characters that are not part of what stands next to them. -/
def format : CodeSet :=
  diff Category.format
    (unionAll [graphemeExtend, Contributory.prependedConcatenationMark, range 0x200C 0x200D])

/-! ## Graphemes -/

/-- The first syllable of each block of 28 Hangul syllables has no final consonant. -/
def openHangul : CodeSet :=
  ofCodes ((List.range 399).map fun block => 0xAC00 + 28 * block)

def graphemeControl : CodeSet :=
  unionAll [
    diff Category.control (union carriageReturn lineFeed),
    Category.lineSeparator, Category.paragraphSeparator, format,
    diff defaultIgnorable assigned]

def graphemePrepend : CodeSet :=
  union Contributory.prependedConcatenationMark
    (runs [(0xD4E, 0xD4E), (0x111C2, 0x111C3), (0x113D1, 0x113D1), (0x1193F, 0x1193F),
      (0x11941, 0x11941), (0x11A84, 0x11A89), (0x11D46, 0x11D46), (0x11F02, 0x11F02)])

def graphemeSpacingMark : CodeSet :=
  union (runs [(0xE33, 0xE33), (0xEB3, 0xEB3)])
    (diff Category.spacingMark
      (union graphemeExtend
        (runs [(0x102B, 0x102C), (0x1038, 0x1038), (0x1062, 0x1064), (0x1067, 0x106D),
          (0x1083, 0x1083), (0x1087, 0x108C), (0x108F, 0x108F), (0x109A, 0x109C),
          (0x1A61, 0x1A61), (0x1A63, 0x1A64), (0xAA7B, 0xAA7B), (0xAA7D, 0xAA7D),
          (0x11720, 0x11721)])))

def graphemeBreaks : List (List String × CodeSet) := [
  (["cn", "control"], graphemeControl),
  (["cr"], carriageReturn),
  (["ex", "extend"], union graphemeExtend Contributory.emojiModifier),
  (["l"], runs [(0x1100, 0x115F), (0xA960, 0xA97C)]),
  (["lf"], lineFeed),
  (["lv"], openHangul),
  (["lvt"], diff (range 0xAC00 0xD7A3) openHangul),
  (["pp", "prepend"], graphemePrepend),
  (["ri", "regionalindicator"], Contributory.regionalIndicator),
  (["sm", "spacingmark"], graphemeSpacingMark),
  (["t"], runs [(0x11A8, 0x11FF), (0xD7CB, 0xD7FB)]),
  (["v"], runs [(0x1160, 0x11A7), (0xD7B0, 0xD7C6), (0x16D63, 0x16D63), (0x16D67, 0x16D6A)]),
  (["zwj"], zeroWidthJoiner)]

/-! ## Words -/

def wordExtend : CodeSet :=
  unionAll [graphemeExtend, Category.spacingMark, Contributory.emojiModifier]

def katakana : CodeSet :=
  union Script.katakana
    (runs [(0x3031, 0x3035), (0x309B, 0x309C), (0x30A0, 0x30A0), (0x30FC, 0x30FC),
      (0xFF70, 0xFF70)])

def hebrewLetter : CodeSet := inter Script.hebrew Category.otherLetter

/-- Scripts of South East Asia do not separate words by blanks; finding words takes a dictionary. -/
def needsDictionary : CodeSet :=
  runs [(0xE01, 0xE30), (0xE32, 0xE33), (0xE40, 0xE46), (0xE81, 0xEB0), (0xEB2, 0xEB3),
    (0xEBD, 0xEC6), (0xEDC, 0xEDF), (0x1000, 0x102A), (0x103F, 0x103F), (0x1050, 0x1055),
    (0x105A, 0x105D), (0x1061, 0x1061), (0x1065, 0x1066), (0x106E, 0x1070), (0x1075, 0x1081),
    (0x108E, 0x108E), (0x1780, 0x17B3), (0x17D7, 0x17DC), (0x1950, 0x1974), (0x1980, 0x19C9),
    (0x1A20, 0x1A54), (0x1AA7, 0x1AA7), (0xA9E0, 0xA9EF), (0xA9FA, 0xA9FE), (0xAA60, 0xAAAF),
    (0xAAB1, 0xAADD), (0x11700, 0x1171A), (0x11740, 0x11746)]

/-- Signs that stand inside words like letters. -/
def letterLike : CodeSet :=
  runs [(0xB8, 0xB8), (0x2C2, 0x2C5), (0x2D2, 0x2D7), (0x2DE, 0x2DF), (0x2E5, 0x2EB),
    (0x2ED, 0x2ED), (0x2EF, 0x2FF), (0x55A, 0x55C), (0x55E, 0x55E), (0x58A, 0x58A),
    (0x5F3, 0x5F3), (0x70F, 0x70F), (0xA708, 0xA716), (0xA720, 0xA721), (0xA789, 0xA78A),
    (0xAB5B, 0xAB5B)]

def wordLetter : CodeSet :=
  union letterLike
    (diff alphabetic
      (unionAll [Contributory.ideographic, katakana, wordExtend, hebrewLetter, Script.hiragana,
        needsDictionary]))

/-- Digits, with the signs that are written with a number. -/
def wordNumeric : CodeSet :=
  unionAll [Category.decimalNumber,
    diff Contributory.prependedConcatenationMark (single 0x70F),
    runs [(0x66B, 0x66B), (0x19DA, 0x19DA)]]

def wordBreaks : List (List String × CodeSet) := [
  (["cr"], carriageReturn),
  (["dq", "doublequote"], single 0x22),
  (["ex", "extendnumlet"], union Category.connectorPunctuation (single 0x202F)),
  (["extend"], wordExtend),
  (["fo", "format"], diff format (single 0x200B)),
  (["hl", "hebrewletter"], hebrewLetter),
  (["ka", "katakana"], katakana),
  (["le", "aletter"], wordLetter),
  (["lf"], lineFeed),
  (["mb", "midnumlet"], runs [(0x2E, 0x2E), (0x2018, 0x2019), (0x2024, 0x2024), (0xFE52, 0xFE52),
    (0xFF07, 0xFF07), (0xFF0E, 0xFF0E)]),
  (["ml", "midletter"], runs [(0x3A, 0x3A), (0xB7, 0xB7), (0x387, 0x387), (0x55F, 0x55F),
    (0x5F4, 0x5F4), (0x2027, 0x2027), (0xFE13, 0xFE13), (0xFE55, 0xFE55), (0xFF1A, 0xFF1A)]),
  (["mn", "midnum"], runs [(0x2C, 0x2C), (0x3B, 0x3B), (0x37E, 0x37E), (0x589, 0x589),
    (0x60C, 0x60D), (0x66C, 0x66C), (0x7F8, 0x7F8), (0x2044, 0x2044), (0xFE50, 0xFE50),
    (0xFE54, 0xFE54), (0xFF0C, 0xFF0C), (0xFF1B, 0xFF1B)]),
  (["nl", "newline"], runs [(0x0B, 0x0C), (0x85, 0x85), (0x2028, 0x2029)]),
  (["nu", "numeric"], wordNumeric),
  (["ri", "regionalindicator"], Contributory.regionalIndicator),
  (["sq", "singlequote"], single 0x27),
  (["wsegspace"], diff Category.spaceSeparator
    (runs [(0xA0, 0xA0), (0x2007, 0x2007), (0x202F, 0x202F)])),
  (["zwj"], zeroWidthJoiner)]

/-! ## Sentences -/

/-- Line ends other than the carriage return and the line feed. -/
def paragraphEnd : CodeSet := runs [(0x85, 0x85), (0x2028, 0x2029)]

/-- Georgian letters do not count as lower or upper case here. -/
def sentenceLower : CodeSet :=
  diff lowercase (unionAll [graphemeExtend, range 0x10D0 0x10FA, range 0x10FD 0x10FF])

def sentenceUpper : CodeSet :=
  diff (union uppercase Category.titlecaseLetter)
    (runs [(0x1C90, 0x1CBA), (0x1CBD, 0x1CBF)])

def sentenceExtend : CodeSet :=
  unionAll [graphemeExtend, Category.spacingMark, zeroWidthJoiner]

/-- Full stops, which also end abbreviations. -/
def fullStop : CodeSet :=
  runs [(0x2E, 0x2E), (0x2024, 0x2024), (0xFE52, 0xFE52), (0xFF0E, 0xFF0E)]

/-- Marks that continue a sentence. -/
def sentenceContinue : CodeSet :=
  runs [(0x2C, 0x2D), (0x3A, 0x3B), (0x37E, 0x37E), (0x55D, 0x55D), (0x60C, 0x60D), (0x7F8, 0x7F8),
    (0x1802, 0x1802), (0x1808, 0x1808), (0x2013, 0x2014), (0x3001, 0x3001), (0xFE10, 0xFE11),
    (0xFE13, 0xFE14), (0xFE31, 0xFE32), (0xFE50, 0xFE51), (0xFE54, 0xFE55), (0xFE58, 0xFE58),
    (0xFE63, 0xFE63), (0xFF0C, 0xFF0D), (0xFF1A, 0xFF1B), (0xFF64, 0xFF64)]

/-- Brackets and quotation marks. -/
def closing : CodeSet :=
  unionAll [Category.openPunctuation, Category.closePunctuation, Category.initialPunctuation,
    Category.finalPunctuation,
    runs [(0x22, 0x22), (0x27, 0x27), (0x275B, 0x2760), (0x2E00, 0x2E01), (0x2E06, 0x2E08),
      (0x2E0B, 0x2E0B), (0x1F676, 0x1F678)]]

def sentenceBreaks : List (List String × CodeSet) := [
  (["at", "aterm"], fullStop),
  (["cl", "close"], closing),
  (["cr"], carriageReturn),
  (["ex", "extend"], sentenceExtend),
  (["fo", "format"], union format (single 0x70F)),
  (["le", "oletter"], union (single 0x5F3)
    (diff alphabetic (unionAll [sentenceLower, sentenceUpper, sentenceExtend]))),
  (["lf"], lineFeed),
  (["lo", "lower"], sentenceLower),
  (["nu", "numeric"], union wordNumeric (single 0x66C)),
  (["sc", "scontinue"], sentenceContinue),
  (["se", "sep"], paragraphEnd),
  (["sp"], diff Contributory.whiteSpace (unionAll [paragraphEnd, carriageReturn, lineFeed])),
  (["st", "sterm"], diff Contributory.sentenceTerminal fullStop),
  (["up", "upper"], sentenceUpper)]

end RegexInference.Unicode.Segmentation
