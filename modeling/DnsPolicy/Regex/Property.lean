import DnsPolicy.Regex.CharSet
import DnsPolicy.Text.Pieces
import DnsPolicy.Unicode.Blank
import DnsPolicy.Unicode.Cased
import DnsPolicy.Unicode.Category
import DnsPolicy.Unicode.Property
import DnsPolicy.Unicode.Script
import DnsPolicy.Unicode.Unprintable

/-! Sets of characters that are named by a property of theirs: a general category, a script, or one
that characters have or lack. Two kinds are not read, and refused as if they did not exist: the version
of Unicode a character has been in since, and where a text breaks at it (`Age`; `Grapheme_Cluster_Break`,
`Word_Break` and `Sentence_Break`). -/
namespace DnsPolicy.Regex
open DnsPolicy.Unicode DnsPolicy.Text

def unions (tables : List Ranges) : CharSet :=
  tables.foldl (fun set table => .union set (.table table)) .empty

def letters : List Ranges :=
  [uppercaseLetter,lowercaseLetter,titlecaseLetter,modifierLetter,otherLetter]

def marks : List Ranges := [nonspacingMark,spacingMark,enclosingMark]

def numbers : List Ranges := [decimalNumber,letterNumber,otherNumber]

def punctuation : List Ranges :=
  [connectorPunctuation,dashPunctuation,openPunctuation,closePunctuation,initialPunctuation,
   finalPunctuation,otherPunctuation]

def symbols : List Ranges := [mathSymbol,currencySymbol,modifierSymbol,otherSymbol]

def separators : List Ranges := [spaceSeparator,lineSeparator,paragraphSeparator]

def others : List Ranges := [control,format,privateUse,unassigned]

def category? : String → Option (List Ranges)
  | "lu" | "uppercaseletter" => some [uppercaseLetter]
  | "ll" | "lowercaseletter" => some [lowercaseLetter]
  | "lt" | "titlecaseletter" => some [titlecaseLetter]
  | "lc" | "casedletter" => some [uppercaseLetter,lowercaseLetter,titlecaseLetter]
  | "lm" | "modifierletter" => some [modifierLetter]
  | "lo" | "otherletter" => some [otherLetter]
  | "l" | "letter" => some letters
  | "mn" | "nonspacingmark" => some [nonspacingMark]
  | "mc" | "spacingmark" => some [spacingMark]
  | "me" | "enclosingmark" => some [enclosingMark]
  | "m" | "mark" | "combiningmark" => some marks
  | "nd" | "decimalnumber" | "digit" => some [decimalNumber]
  | "nl" | "letternumber" => some [letterNumber]
  | "no" | "othernumber" => some [otherNumber]
  | "n" | "number" => some numbers
  | "pc" | "connectorpunctuation" => some [connectorPunctuation]
  | "pd" | "dashpunctuation" => some [dashPunctuation]
  | "ps" | "openpunctuation" => some [openPunctuation]
  | "pe" | "closepunctuation" => some [closePunctuation]
  | "pi" | "initialpunctuation" => some [initialPunctuation]
  | "pf" | "finalpunctuation" => some [finalPunctuation]
  | "po" | "otherpunctuation" => some [otherPunctuation]
  | "p" | "punctuation" | "punct" => some punctuation
  | "sm" | "mathsymbol" => some [mathSymbol]
  | "sc" | "currencysymbol" => some [currencySymbol]
  | "sk" | "modifiersymbol" => some [modifierSymbol]
  | "so" | "othersymbol" => some [otherSymbol]
  | "s" | "symbol" => some symbols
  | "zs" | "spaceseparator" => some [spaceSeparator]
  | "zl" | "lineseparator" => some [lineSeparator]
  | "zp" | "paragraphseparator" => some [paragraphSeparator]
  | "z" | "separator" => some separators
  | "cc" | "control" | "cntrl" => some [control]
  | "cf" | "format" => some [format]
  | "co" | "privateuse" => some [privateUse]
  | "cn" | "unassigned" => some [unassigned]
  | "c" | "other" => some others
  | _ => none

def generalCategory? : String → Option CharSet
  | "any" => some .any
  | "assigned" => some (.compl (.table unassigned))
  | "ascii" => some .ascii
  | name => (category? name).map unions

def script? (name : String) : Option Script := scripts.find? fun script => script.names.contains name

namespace CharSet

def script (script : Script) : CharSet := .table script.chars

/-- The characters that are used in a script: its own, and those listed for it. -/
def usedIn (script : Script) : CharSet :=
  .union (without (.table script.chars) (unions sharedChars)) (.table script.shared)

def alphabetic : CharSet := unions (letterNumber :: otherAlphabetic :: letters)

def lowercase : CharSet := unions [lowercaseLetter,otherLowercase]

def uppercase : CharSet := unions [uppercaseLetter,otherUppercase]

def casefolded : CharSet :=
  without (unions [changesWhenLowercased,folds]) (.table cherokeeCapital)

def titlecased : CharSet :=
  without (unions [changesWhenUppercased,titlecases]) (.table staysInTitlecase)

def casemapped : CharSet :=
  .union titlecased (unions [changesWhenLowercased,changesWhenUppercased])

def defaultIgnorable : CharSet :=
  without (unions [otherDefaultIgnorable,format,variationSelector])
    (unions [blankRanges,annotationMark,hieroglyphFormat,prependedMark])

def graphemeExtend : CharSet := unions [enclosingMark,nonspacingMark,otherGraphemeExtend]

def graphemeBase : CharSet :=
  .compl (.union graphemeExtend (unions (lineSeparator :: paragraphSeparator :: others)))

def patternSyntaxOrSpace : CharSet := unions [patternSyntax,patternWhiteSpace]

def idStart : CharSet := without (unions (letterNumber :: otherIdStart :: letters)) patternSyntaxOrSpace

def idContinue : CharSet :=
  .union idStart
    (unions [nonspacingMark,spacingMark,decimalNumber,connectorPunctuation,otherIdContinue])

end CharSet

def binary? : String → Option CharSet
  | "alphabetic" | "alpha" => some .alphabetic
  | "asciihexdigit" | "ahex" => some (.table asciiHexDigit)
  | "bidicontrol" | "bidic" => some (.table bidiControl)
  | "bidimirrored" | "bidim" => some (.table bidiMirrored)
  | "cased" => some (.table casedRanges)
  | "caseignorable" | "ci" => some (.table caseIgnorableRanges)
  | "changeswhencasefolded" | "cwcf" => some .casefolded
  | "changeswhencasemapped" | "cwcm" => some .casemapped
  | "changeswhenlowercased" | "cwl" => some (.table changesWhenLowercased)
  | "changeswhentitlecased" | "cwt" => some .titlecased
  | "changeswhenuppercased" | "cwu" => some (.table changesWhenUppercased)
  | "dash" => some (.table dash)
  | "defaultignorablecodepoint" | "di" => some .defaultIgnorable
  | "deprecated" | "dep" => some (.table deprecatedChar)
  | "diacritic" | "dia" => some (.table diacritic)
  | "emoji" => some (.table emoji)
  | "emojicomponent" | "ecomp" => some (.table emojiComponent)
  | "emojimodifier" | "emod" => some (.table emojiModifier)
  | "emojimodifierbase" | "ebase" => some (.table emojiModifierBase)
  | "emojipresentation" | "epres" => some (.table emojiPresentation)
  | "extendedpictographic" | "extpict" => some (.table extendedPictographic)
  | "extender" | "ext" => some (.table extender)
  | "graphemebase" | "grbase" => some .graphemeBase
  | "graphemeextend" | "grext" => some .graphemeExtend
  | "graphemelink" | "grlink" => some (.table graphemeLink)
  | "hexdigit" | "hex" => some (.table hexDigit)
  | "hyphen" => some (.table hyphen)
  | "idcontinue" | "idc" => some .idContinue
  | "idstart" | "ids" => some .idStart
  | "ideographic" | "ideo" => some (.table ideographic)
  | "idsbinaryoperator" | "idsb" => some (.table idsBinaryOperator)
  | "idstrinaryoperator" | "idst" => some (.table idsTrinaryOperator)
  | "joincontrol" | "joinc" => some (.table joinControl)
  | "logicalorderexception" | "loe" => some (.table logicalOrderException)
  | "lowercase" | "lower" => some .lowercase
  | "math" => some (unions [mathSymbol,otherMath])
  | "noncharactercodepoint" | "nchar" => some (.table noncharacter)
  | "otheralphabetic" | "oalpha" => some (.table otherAlphabetic)
  | "otherdefaultignorablecodepoint" | "odi" => some (.table otherDefaultIgnorable)
  | "othergraphemeextend" | "ogrext" => some (.table otherGraphemeExtend)
  | "otheridcontinue" | "oidc" => some (.table otherIdContinue)
  | "otheridstart" | "oids" => some (.table otherIdStart)
  | "otherlowercase" | "olower" => some (.table otherLowercase)
  | "othermath" | "omath" => some (.table otherMath)
  | "otheruppercase" | "oupper" => some (.table otherUppercase)
  | "patternsyntax" | "patsyn" => some (.table patternSyntax)
  | "patternwhitespace" | "patws" => some (.table patternWhiteSpace)
  | "prependedconcatenationmark" | "pcm" => some (.table prependedMark)
  | "quotationmark" | "qmark" => some (.table quotationMark)
  | "radical" => some (.table radical)
  | "regionalindicator" | "ri" => some (.table regionalIndicator)
  | "sentenceterminal" | "sterm" => some (.table sentenceTerminal)
  | "softdotted" | "sd" => some (.table softDotted)
  | "terminalpunctuation" | "term" => some (.table terminalPunctuation)
  | "unifiedideograph" | "uideo" => some (.table unifiedIdeograph)
  | "uppercase" | "upper" => some .uppercase
  | "variationselector" | "vs" => some (.table variationSelector)
  | "whitespace" | "wspace" | "space" => some (.table blankRanges)
  | "xidcontinue" | "xidc" => some (.without .idContinue (.table unstableInIds))
  | "xidstart" | "xids" => some (.without .idStart (.table unstableAtIdStart))
  | _ => none

def bareName (name : List Char) : List Char :=
  (name.filter fun c => c.toNat < 0x80 && c != ' ' && c != '_' && c != '-').map Char.toLower

/-- A name as names are compared: the case of its letters, blanks, hyphens, underscores and what is not
ASCII do not count, and neither does `is` in front. But `isc` is a name by itself, and not that of the
category `c`. -/
def looseName (name : List Char) : String :=
  match after? "is".toList (name.map Char.toLower) with
  | none => String.ofList (bareName name)
  | some rest => if bareName rest = ['c'] then "isc" else String.ofList (bareName rest)

def named? (name : String) : Option CharSet :=
  binary? name <|> generalCategory? name <|> (script? name).map .script

def valued? (property value : String) : Option CharSet :=
  match property with
  | "generalcategory" | "gc" => generalCategory? value
  | "script" | "sc" => (script? value).map .script
  | "scriptextensions" | "scx" => (script? value).map .usedIn
  | _ => none

/-- The set of a property as it is written between braces: a name, or a property and its value with
a colon, an equals sign, or the sign that they differ in between. -/
def propertySet? (text : List Char) : Option CharSet :=
  match cut? '=' text, cut? ':' text with
  | some (front,value), _ =>
    if front.getLast? = some '!' then
      (valued? (looseName front.dropLast) (looseName value)).map .compl
    else valued? (looseName front) (looseName value)
  | none, some (property,value) => valued? (looseName property) (looseName value)
  | none, none => named? (looseName text)

end DnsPolicy.Regex
