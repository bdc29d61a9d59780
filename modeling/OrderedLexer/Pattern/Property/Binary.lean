/-
  Properties that a character has or has not.

  `Binary.contains` decides a property and `Binary.named?` finds the one with a name, written in
  lower case without separators.
-/
import OrderedLexer.Pattern.Property.Derived

namespace OrderedLexer.Pattern

/-- A property that a character has or has not. -/
inductive Binary where
  | alphabetic | asciiHexDigit | bidiControl | bidiMirrored | caseIgnorable | cased
  | changesWhenCasefolded | changesWhenCasemapped | changesWhenLowercased | changesWhenTitlecased
  | changesWhenUppercased | dash | defaultIgnorableCodePoint | deprecated | diacritic | emoji
  | emojiComponent | emojiModifier | emojiModifierBase | emojiPresentation | extendedPictographic
  | extender | graphemeBase | graphemeExtend | graphemeLink | hexDigit | hyphen
  | idCompatMathContinue | idCompatMathStart | idContinue | idStart | ideographic
  | idsBinaryOperator | idsTrinaryOperator | idsUnaryOperator | joinControl | logicalOrderException
  | lowercase | math | modifierCombiningMark | noncharacterCodePoint | otherAlphabetic
  | otherDefaultIgnorableCodePoint | otherGraphemeExtend | otherIdContinue | otherIdStart
  | otherLowercase | otherMath | otherUppercase | patternSyntax | patternWhiteSpace
  | prependedConcatenationMark | quotationMark | radical | regionalIndicator | sentenceTerminal
  | softDotted | terminalPunctuation | unifiedIdeograph | uppercase | variationSelector | whiteSpace
  | xidContinue | xidStart
  deriving DecidableEq, Repr

namespace Binary

/-- Every property with its names. -/
def names : List (List String × Binary) := [
  (["alpha", "alphabetic"], .alphabetic), (["ahex", "asciihexdigit"], .asciiHexDigit),
  (["bidic", "bidicontrol"], .bidiControl), (["bidim", "bidimirrored"], .bidiMirrored),
  (["caseignorable", "ci"], .caseIgnorable), (["cased"], .cased),
  (["changeswhencasefolded", "cwcf"], .changesWhenCasefolded),
  (["changeswhencasemapped", "cwcm"], .changesWhenCasemapped),
  (["changeswhenlowercased", "cwl"], .changesWhenLowercased),
  (["changeswhentitlecased", "cwt"], .changesWhenTitlecased),
  (["changeswhenuppercased", "cwu"], .changesWhenUppercased), (["dash"], .dash),
  (["defaultignorablecodepoint", "di"], .defaultIgnorableCodePoint),
  (["dep", "deprecated"], .deprecated), (["dia", "diacritic"], .diacritic), (["emoji"], .emoji),
  (["ecomp", "emojicomponent"], .emojiComponent), (["emod", "emojimodifier"], .emojiModifier),
  (["ebase", "emojimodifierbase"], .emojiModifierBase),
  (["emojipresentation", "epres"], .emojiPresentation),
  (["extendedpictographic", "extpict"], .extendedPictographic), (["ext", "extender"], .extender),
  (["graphemebase", "grbase"], .graphemeBase), (["graphemeextend", "grext"], .graphemeExtend),
  (["graphemelink", "grlink"], .graphemeLink), (["hex", "hexdigit"], .hexDigit),
  (["hyphen"], .hyphen), (["idcompatmathcontinue"], .idCompatMathContinue),
  (["idcompatmathstart"], .idCompatMathStart), (["idc", "idcontinue"], .idContinue),
  (["ids", "idstart"], .idStart), (["ideo", "ideographic"], .ideographic),
  (["idsb", "idsbinaryoperator"], .idsBinaryOperator),
  (["idst", "idstrinaryoperator"], .idsTrinaryOperator),
  (["idsu", "idsunaryoperator"], .idsUnaryOperator), (["joinc", "joincontrol"], .joinControl),
  (["loe", "logicalorderexception"], .logicalOrderException), (["lower", "lowercase"], .lowercase),
  (["math"], .math), (["mcm", "modifiercombiningmark"], .modifierCombiningMark),
  (["nchar", "noncharactercodepoint"], .noncharacterCodePoint),
  (["oalpha", "otheralphabetic"], .otherAlphabetic),
  (["odi", "otherdefaultignorablecodepoint"], .otherDefaultIgnorableCodePoint),
  (["ogrext", "othergraphemeextend"], .otherGraphemeExtend),
  (["oidc", "otheridcontinue"], .otherIdContinue), (["oids", "otheridstart"], .otherIdStart),
  (["olower", "otherlowercase"], .otherLowercase), (["omath", "othermath"], .otherMath),
  (["otheruppercase", "oupper"], .otherUppercase), (["patsyn", "patternsyntax"], .patternSyntax),
  (["patternwhitespace", "patws"], .patternWhiteSpace),
  (["pcm", "prependedconcatenationmark"], .prependedConcatenationMark),
  (["qmark", "quotationmark"], .quotationMark), (["radical"], .radical),
  (["regionalindicator", "ri"], .regionalIndicator),
  (["sentenceterminal", "sterm"], .sentenceTerminal), (["sd", "softdotted"], .softDotted),
  (["term", "terminalpunctuation"], .terminalPunctuation),
  (["uideo", "unifiedideograph"], .unifiedIdeograph), (["upper", "uppercase"], .uppercase),
  (["variationselector", "vs"], .variationSelector),
  (["space", "whitespace", "wspace"], .whiteSpace), (["xidc", "xidcontinue"], .xidContinue),
  (["xids", "xidstart"], .xidStart)]

/-- The property with a name. -/
def named? (name : String) : Option Binary := (names.find? fun e => e.1.contains name).map (·.2)

/-- Whether a character has a property. -/
def contains : Binary → Char → Bool
  | .alphabetic, c => isAlphabetic c
  | .asciiHexDigit, c => c.toNat < 0x80 && Listed.hexDigit.contains c
  | .caseIgnorable, c => isCaseIgnorable c
  | .cased, c => isCased c
  | .changesWhenCasefolded, c => isChangedByFolding c
  | .changesWhenCasemapped, c => isChangedByCasing c
  | .changesWhenLowercased, c => isChangedByLower c
  | .changesWhenTitlecased, c => isChangedByTitle c
  | .changesWhenUppercased, c => isChangedByUpper c
  | .defaultIgnorableCodePoint, c => isDefaultIgnorable c
  | .graphemeBase, c => isGraphemeBase c
  | .graphemeExtend, c => isGraphemeExtend c
  | .idContinue, c => isIdContinue c
  | .idStart, c => isIdStart c
  | .joinControl, c => isJoinControl c
  | .lowercase, c => isLowercase c
  | .math, c => isMath c
  | .uppercase, c => isUppercase c
  | .whiteSpace, c => Text.isWhiteSpace c
  | .xidContinue, c => isXidContinue c
  | .xidStart, c => isXidStart c
  | .bidiControl, c => Listed.bidiControl.contains c
  | .bidiMirrored, c => Listed.bidiMirrored.contains c
  | .dash, c => Listed.dash.contains c
  | .deprecated, c => Listed.deprecated.contains c
  | .diacritic, c => Listed.diacritic.contains c
  | .emoji, c => Listed.emoji.contains c
  | .emojiComponent, c => Listed.emojiComponent.contains c
  | .emojiModifier, c => Listed.emojiModifier.contains c
  | .emojiModifierBase, c => Listed.emojiModifierBase.contains c
  | .emojiPresentation, c => Listed.emojiPresentation.contains c
  | .extendedPictographic, c => Listed.extendedPictographic.contains c
  | .extender, c => Listed.extender.contains c
  | .graphemeLink, c => Listed.graphemeLink.contains c
  | .hexDigit, c => Listed.hexDigit.contains c
  | .hyphen, c => Listed.hyphen.contains c
  | .idCompatMathContinue, c => Listed.idCompatMathContinue.contains c
  | .idCompatMathStart, c => Listed.idCompatMathStart.contains c
  | .ideographic, c => Listed.ideographic.contains c
  | .idsBinaryOperator, c => Listed.idsBinaryOperator.contains c
  | .idsTrinaryOperator, c => Listed.idsTrinaryOperator.contains c
  | .idsUnaryOperator, c => Listed.idsUnaryOperator.contains c
  | .logicalOrderException, c => Listed.logicalOrderException.contains c
  | .modifierCombiningMark, c => Listed.modifierCombiningMark.contains c
  | .noncharacterCodePoint, c => Listed.noncharacterCodePoint.contains c
  | .otherAlphabetic, c => Listed.otherAlphabetic.contains c
  | .otherDefaultIgnorableCodePoint, c => Listed.otherDefaultIgnorableCodePoint.contains c
  | .otherGraphemeExtend, c => Listed.otherGraphemeExtend.contains c
  | .otherIdContinue, c => Listed.otherIdContinue.contains c
  | .otherIdStart, c => Listed.otherIdStart.contains c
  | .otherLowercase, c => Listed.otherLowercase.contains c
  | .otherMath, c => Listed.otherMath.contains c
  | .otherUppercase, c => Listed.otherUppercase.contains c
  | .patternSyntax, c => Listed.patternSyntax.contains c
  | .patternWhiteSpace, c => Listed.patternWhiteSpace.contains c
  | .prependedConcatenationMark, c => Listed.prependedConcatenationMark.contains c
  | .quotationMark, c => Listed.quotationMark.contains c
  | .radical, c => Listed.radical.contains c
  | .regionalIndicator, c => Listed.regionalIndicator.contains c
  | .sentenceTerminal, c => Listed.sentenceTerminal.contains c
  | .softDotted, c => Listed.softDotted.contains c
  | .terminalPunctuation, c => Listed.terminalPunctuation.contains c
  | .unifiedIdeograph, c => Listed.unifiedIdeograph.contains c
  | .variationSelector, c => Listed.variationSelector.contains c

end Binary

end OrderedLexer.Pattern
