import ModuleBundler.Unicode.Age
import ModuleBundler.Unicode.Casing
import ModuleBundler.Unicode.Segment
import ModuleBundler.Unicode.WritingSystem.Written

/-!
Properties of characters, found by their names. Case, blanks, hyphens and low lines in a name do
not count, nor does a leading "is".
-/
namespace ModuleBundler.Unicode

namespace Property

open Category

def caseIgnorable : Membership :=
  .unions [nonspacingMark, enclosingMark, format, modifierLetter, modifierSymbol,
    Word.middleLetter, Word.middle, .range 0x27 0x27]

def graphemeBase : Membership :=
  assigned.diff (.unions [control, format, surrogate, privateUse, lineSeparator,
    paragraphSeparator, graphemeExtend])

/-- Properties that a character has or has not, by name. -/
def binary : List (List String × Membership) := [
  (["math"], math),
  (["cased"], cased),
  (["dash"], dash),
  (["ideographic", "ideo"], ideographic),
  (["diacritic", "dia"], diacritic),
  (["extender", "ext"], extender),
  (["emoji"], emoji),
  (["emojipresentation", "epres"], emojiPresentation),
  (["emojimodifier", "emod"], emojiModifier),
  (["emojimodifierbase", "ebase"], emojiModifierBase),
  (["emojicomponent", "ecomp"], emojiComponent),
  (["extendedpictographic", "extpict"], pictographic),
  (["quotationmark", "qmark"], quotationMark),
  (["noncharactercodepoint", "nchar"], noncharacter),
  (["patternsyntax", "patsyn"], patternSymbol),
  (["patternwhitespace", "patws"], patternSpace),
  (["joincontrol", "joinc"], joinControl),
  (["variationselector", "vs"], variationSelector),
  (["unifiedideograph", "uideo"], unifiedIdeograph),
  (["softdotted", "sd"], softDotted),
  (["regionalindicator", "ri"], regionalIndicator),
  (["radical"], radical),
  (["bidicontrol", "bidic"], bidiControl),
  (["sentenceterminal", "sterm"], sentenceTerminal),
  (["terminalpunctuation", "term"], terminalPunctuation),
  (["deprecated", "dep"], deprecated),
  (["logicalorderexception", "loe"], logicalOrderException),
  (["hexdigit", "hex"], hexDigit),
  (["asciihexdigit", "ahex"], asciiHexDigit),
  (["whitespace", "wspace", "space"], whiteSpace),
  (["alphabetic", "alpha"], alphabetic),
  (["lowercase", "lower"], lowercase),
  (["uppercase", "upper"], uppercase),
  (["idstart", "ids", "xidstart", "xids"], nameStart.union asciiNameStart),
  (["bidimirrored", "bidim"], mirrored),
  (["caseignorable", "ci"], caseIgnorable),
  (["changeswhenlowercased", "cwl"], Casing.changesInLowercase),
  (["changeswhenuppercased", "cwu"], Casing.changesInUppercase),
  (["changeswhentitlecased", "cwt"], Casing.changesInTitlecase),
  (["changeswhencasefolded", "cwcf"], Casing.changesWhenFolded),
  (["changeswhencasemapped", "cwcm"], Casing.changesInSomeCase),
  (["defaultignorablecodepoint", "di"], defaultIgnorable),
  (["graphemebase", "grbase"], graphemeBase),
  (["graphemeextend", "grext"], graphemeExtend),
  (["graphemelink", "grlink"], graphemeLink),
  (["hyphen"], hyphen),
  (["idsbinaryoperator", "idsb"], binaryDescription),
  (["idstrinaryoperator", "idst"], ternaryDescription),
  (["idsunaryoperator", "idsu"], unaryDescription),
  (["prependedconcatenationmark", "pcm"], prefixMark),
  (["otheralphabetic", "oalpha"], furtherAlphabetic),
  (["otherlowercase", "olower"], furtherLowercase),
  (["otheruppercase", "oupper"], furtherUppercase),
  (["othermath", "omath"], math.diff mathSymbol),
  (["otheridstart", "oids"], furtherNameStart),
  (["otheridcontinue", "oidc"], furtherNameContinue),
  (["othergraphemeextend", "ogrext"], furtherExtenders),
  (["otherdefaultignorablecodepoint", "odi"], furtherIgnorable),
  (["idcontinue", "idc", "xidcontinue", "xidc"], nameContinue.union asciiWord)]

/-- General categories and groups of them, by name. -/
def categories : List (List String × Membership) := [
  (["uppercaseletter", "lu"], uppercaseLetter),
  (["lowercaseletter", "ll"], lowercaseLetter),
  (["titlecaseletter", "lt"], titlecaseLetter),
  (["modifierletter", "lm"], modifierLetter),
  (["otherletter", "lo"], otherLetter),
  (["casedletter", "lc"], casedLetter),
  (["letter", "l"], letter),
  (["nonspacingmark", "mn"], nonspacingMark),
  (["spacingmark", "mc"], spacingMark),
  (["enclosingmark", "me"], enclosingMark),
  (["mark", "m", "combiningmark"], mark),
  (["decimalnumber", "nd", "digit"], decimalNumber),
  (["letternumber", "nl"], letterNumber),
  (["othernumber", "no"], otherNumber),
  (["number", "n"], number),
  (["connectorpunctuation", "pc"], connectorPunctuation),
  (["dashpunctuation", "pd"], dashPunctuation),
  (["openpunctuation", "ps"], openPunctuation),
  (["closepunctuation", "pe"], closePunctuation),
  (["initialpunctuation", "pi"], initialPunctuation),
  (["finalpunctuation", "pf"], finalPunctuation),
  (["otherpunctuation", "po"], otherPunctuation),
  (["punctuation", "p", "punct"], punctuation),
  (["mathsymbol", "sm"], mathSymbol),
  (["currencysymbol", "sc"], currencySymbol),
  (["modifiersymbol", "sk"], modifierSymbol),
  (["othersymbol", "so"], otherSymbol),
  (["symbol", "s"], symbol),
  (["spaceseparator", "zs"], spaceSeparator),
  (["lineseparator", "zl"], lineSeparator),
  (["paragraphseparator", "zp"], paragraphSeparator),
  (["separator", "z"], separator),
  (["control", "cc", "cntrl"], control),
  (["format", "cf"], format),
  (["privateuse", "co"], privateUse),
  (["surrogate", "cs"], surrogate),
  (["unassigned", "cn"], unassigned),
  (["other", "c"], .unions [control, format, privateUse, surrogate, unassigned]),
  (["any"], .range 0 0x10FFFF),
  (["assigned"], assigned),
  (["ascii"], ascii)]

/-- A name without what does not count in it. -/
def plainName (name : List Char) : String :=
  let (is, rest) := match name with
    | i :: s :: rest =>
      if (i == 'i' || i == 'I') && (s == 's' || s == 'S') then (true, rest) else (false, name)
    | _ => (false, name)
  let plain := (rest.filter fun c => c.val < 0x80 && !(c == ' ' || c == '_' || c == '-')).map
    Char.toLower
  if is && plain == ['c'] then "isc" else String.ofList plain

def lookUp (name : String) (table : List (List String × Membership)) : Option Membership :=
  (table.find? fun row => row.1.contains name).map (·.2)

/-- The property with a name. The short name `sc` is that of a category. -/
def ofName? (name : List Char) : Option Membership :=
  let name := plainName name
  (lookUp name binary).or
    ((lookUp name categories).or ((WritingSystem.named? name).map (·.members)))

/-- The characters for which a property has a value. -/
def ofValue? (property value : List Char) : Option Membership :=
  let value := plainName value
  match plainName property with
  | "generalcategory" | "gc" => lookUp value categories
  | "script" | "sc" => (WritingSystem.named? value).map (·.members)
  | "scriptextensions" | "scx" => (WritingSystem.named? value).map (·.written)
  | "age" => Age.upTo Age.versions value
  | "graphemeclusterbreak" | "gcb" => lookUp value Cluster.classes
  | "wordbreak" | "wb" => lookUp value Word.classes
  | "sentencebreak" | "sb" => lookUp value Sentence.classes
  | _ => none

end Property

end ModuleBundler.Unicode
