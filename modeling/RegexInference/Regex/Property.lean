import RegexInference.Unicode.Age
import RegexInference.Unicode.ScriptExtension
import RegexInference.Unicode.Segmentation

/-!
# Named properties

The names that `\p{…}` knows: general categories, scripts, properties that hold or fail, and
properties with a value.  Case, blanks, hyphens, underscores and a leading `is` do not count in a
name.
-/

namespace RegexInference.Regex.Property

open Unicode

/-- Drops a leading `is` in any case. -/
def dropIs : List Char → List Char × Bool
  | a :: b :: rest =>
    if (a = 'i' ∨ a = 'I') ∧ (b = 's' ∨ b = 'S') then (rest, true) else (a :: b :: rest, false)
  | name => (name, false)

/-- The form in which names are compared.  `isc` is a name of its own, although its `is` would
otherwise be dropped. -/
def normalize (name : List Char) : String :=
  let (rest, dropped) := dropIs name
  let kept := rest.filter fun c => c.toNat < 0x80 && c != ' ' && c != '_' && c != '-'
  let lower := kept.map Char.toLower
  if dropped && lower == ['c'] then "isc" else String.ofList lower

def generalCategories : List (List String × CodeSet) := [
  (["any"], CodeSet.full),
  (["assigned"], assigned),
  (["ascii"], CodeSet.range 0 0x7F),
  (["c", "other"], (graphic.union separator).compl),
  (["cc", "control", "cntrl"], Category.control),
  (["cf", "format"], Category.format),
  (["cn", "unassigned"], assigned.compl),
  (["co", "privateuse"], Category.privateUse),
  (["l", "letter"], letter),
  (["lc", "casedletter"], casedLetter),
  (["ll", "lowercaseletter"], Category.lowercaseLetter),
  (["lm", "modifierletter"], Category.modifierLetter),
  (["lo", "otherletter"], Category.otherLetter),
  (["lt", "titlecaseletter"], Category.titlecaseLetter),
  (["lu", "uppercaseletter"], Category.uppercaseLetter),
  (["m", "mark", "combiningmark"], mark),
  (["mc", "spacingmark"], Category.spacingMark),
  (["me", "enclosingmark"], Category.enclosingMark),
  (["mn", "nonspacingmark"], Category.nonspacingMark),
  (["n", "number"], number),
  (["nd", "decimalnumber", "digit"], Category.decimalNumber),
  (["nl", "letternumber"], Category.letterNumber),
  (["no", "othernumber"], Category.otherNumber),
  (["p", "punctuation", "punct"], punctuation),
  (["pc", "connectorpunctuation"], Category.connectorPunctuation),
  (["pd", "dashpunctuation"], Category.dashPunctuation),
  (["pe", "closepunctuation"], Category.closePunctuation),
  (["pf", "finalpunctuation"], Category.finalPunctuation),
  (["pi", "initialpunctuation"], Category.initialPunctuation),
  (["po", "otherpunctuation"], Category.otherPunctuation),
  (["ps", "openpunctuation"], Category.openPunctuation),
  (["s", "symbol"], symbol),
  (["sc", "currencysymbol"], Category.currencySymbol),
  (["sk", "modifiersymbol"], Category.modifierSymbol),
  (["sm", "mathsymbol"], Category.mathSymbol),
  (["so", "othersymbol"], Category.otherSymbol),
  (["z", "separator"], separator),
  (["zl", "lineseparator"], Category.lineSeparator),
  (["zp", "paragraphseparator"], Category.paragraphSeparator),
  (["zs", "spaceseparator"], Category.spaceSeparator)]

def binaryProperties : List (List String × CodeSet) := [
  (["ahex", "asciihexdigit"], Contributory.asciiHexDigit),
  (["alpha", "alphabetic"], alphabetic),
  (["bidic", "bidicontrol"], Contributory.bidiControl),
  (["bidim", "bidimirrored"], Contributory.bidiMirrored),
  (["cased"], cased),
  (["ci", "caseignorable"], caseIgnorable),
  (["cwcf", "changeswhencasefolded"], changesWhenCasefolded),
  (["cwcm", "changeswhencasemapped"], changesWhenCasemapped),
  (["cwl", "changeswhenlowercased"], changesWhenLowercased),
  (["cwt", "changeswhentitlecased"], changesWhenTitlecased),
  (["cwu", "changeswhenuppercased"], changesWhenUppercased),
  (["dash"], Contributory.dash),
  (["dep", "deprecated"], Contributory.deprecated),
  (["di", "defaultignorablecodepoint"], defaultIgnorable),
  (["dia", "diacritic"], Contributory.diacritic),
  (["ebase", "emojimodifierbase"], Contributory.emojiModifierBase),
  (["ecomp", "emojicomponent"], Contributory.emojiComponent),
  (["emod", "emojimodifier"], Contributory.emojiModifier),
  (["emoji"], Contributory.emoji),
  (["epres", "emojipresentation"], Contributory.emojiPresentation),
  (["ext", "extender"], Contributory.extender),
  (["extpict", "extendedpictographic"], Contributory.extendedPictographic),
  (["grbase", "graphemebase"], graphemeBase),
  (["grext", "graphemeextend"], graphemeExtend),
  (["grlink", "graphemelink"], Contributory.graphemeLink),
  (["hex", "hexdigit"], Contributory.hexDigit),
  (["hyphen"], Contributory.hyphen),
  (["idc", "idcontinue"], idContinue),
  (["idcompatmathcontinue"], Contributory.idCompatMathContinue),
  (["idcompatmathstart"], Contributory.idCompatMathStart),
  (["ideo", "ideographic"], Contributory.ideographic),
  (["ids", "idstart"], idStart),
  (["idsb", "idsbinaryoperator"], Contributory.idsBinaryOperator),
  (["idst", "idstrinaryoperator"], Contributory.idsTrinaryOperator),
  (["idsu", "idsunaryoperator"], Contributory.idsUnaryOperator),
  (["joinc", "joincontrol"], Contributory.joinControl),
  (["loe", "logicalorderexception"], Contributory.logicalOrderException),
  (["lower", "lowercase"], lowercase),
  (["math"], math),
  (["mcm", "modifiercombiningmark"], Contributory.modifierCombiningMark),
  (["nchar", "noncharactercodepoint"], Contributory.noncharacterCodePoint),
  (["oalpha", "otheralphabetic"], Contributory.otherAlphabetic),
  (["odi", "otherdefaultignorablecodepoint"], Contributory.otherDefaultIgnorable),
  (["ogrext", "othergraphemeextend"], Contributory.otherGraphemeExtend),
  (["oidc", "otheridcontinue"], Contributory.otherIdContinue),
  (["oids", "otheridstart"], Contributory.otherIdStart),
  (["olower", "otherlowercase"], Contributory.otherLowercase),
  (["omath", "othermath"], Contributory.otherMath),
  (["oupper", "otheruppercase"], Contributory.otherUppercase),
  (["patsyn", "patternsyntax"], Contributory.patternSyntax),
  (["patws", "patternwhitespace"], Contributory.patternWhiteSpace),
  (["pcm", "prependedconcatenationmark"], Contributory.prependedConcatenationMark),
  (["qmark", "quotationmark"], Contributory.quotationMark),
  (["radical"], Contributory.radical),
  (["ri", "regionalindicator"], Contributory.regionalIndicator),
  (["sd", "softdotted"], Contributory.softDotted),
  (["sterm", "sentenceterminal"], Contributory.sentenceTerminal),
  (["term", "terminalpunctuation"], Contributory.terminalPunctuation),
  (["uideo", "unifiedideograph"], Contributory.unifiedIdeograph),
  (["upper", "uppercase"], uppercase),
  (["vs", "variationselector"], Contributory.variationSelector),
  (["wspace", "whitespace", "space"], Contributory.whiteSpace),
  (["xidc", "xidcontinue"], xidContinue),
  (["xids", "xidstart"], xidStart)]

/-- The entry that carries a name. -/
def lookUp (table : List (List String × CodeSet)) (name : String) : Option CodeSet :=
  (table.find? fun entry => entry.1.contains name).map Prod.snd

def named? (name : List Char) : Option CodeSet :=
  let key := normalize name
  (lookUp binaryProperties key).orElse fun _ =>
    (lookUp generalCategories key).orElse fun _ => Script.ofName? key

def valued? (name value : List Char) : Option CodeSet :=
  let key := normalize value
  match normalize name with
  | "gc" | "generalcategory" => lookUp generalCategories key
  | "sc" | "script" => Script.ofName? key
  | "scx" | "scriptextensions" => ScriptExtension.ofName? key
  | "age" => Age.upTo? key
  | "gcb" | "graphemeclusterbreak" => lookUp Segmentation.graphemeBreaks key
  | "wb" | "wordbreak" => lookUp Segmentation.wordBreaks key
  | "sb" | "sentencebreak" => lookUp Segmentation.sentenceBreaks key
  | _ => none

end RegexInference.Regex.Property
