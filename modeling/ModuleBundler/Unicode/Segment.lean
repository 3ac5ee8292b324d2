import ModuleBundler.Unicode.Property

/-!
How characters stand together: in the clusters that readers take for one character, in words and
in sentences. Each class has its names, in lower case and without separators.
-/
namespace ModuleBundler.Unicode

open Category Property

def carriageReturn : Membership := .range 0xD 0xD

def lineFeed : Membership := .range 0xA 0xA

def lineEnds : Membership := .unions [carriageReturn, lineFeed]

def zeroWidthJoiner : Membership := .range 0x200D 0x200D

/-- What is added to the character before it, or to the next one. -/
def attached : Membership := .unions [graphemeExtend, spacingMark]

namespace Cluster

def extend : Membership := graphemeExtend.union emojiModifier

def control : Membership :=
  let ignored := unassigned.inter defaultIgnorable
  let all := Membership.unions
    [Category.control, format, lineSeparator, paragraphSeparator, ignored]
  all.diff (.unions [lineEnds, prefixMark, .range 0x200C 0x200D, graphemeExtend])

/-- What is added to the next character. -/
def prepended : Membership := ⟨#[
    0x600, 0x606, 0x6DD, 0x6DE, 0x70F, 0x710, 0x890, 0x892, 0x8E2, 0x8E3, 0xD4E, 0xD4F, 0x110BD,
    0x110BE, 0x110CD, 0x110CE, 0x111C2, 0x111C4, 0x1193F, 0x11940, 0x11941, 0x11942, 0x11A3A,
    0x11A3B, 0x11A84, 0x11A8A, 0x11D46, 0x11D47, 0x11F02, 0x11F03]⟩

/-- Spacing marks that stand alone. -/
def apart : Membership := ⟨#[
    0x102B, 0x102D, 0x1038, 0x1039, 0x1062, 0x1065, 0x1067, 0x106E, 0x1083, 0x1084, 0x1087,
    0x108D, 0x108F, 0x1090, 0x109A, 0x109D, 0x1A61, 0x1A62, 0x1A63, 0x1A65, 0xAA7B, 0xAA7C,
    0xAA7D, 0xAA7E, 0x11720, 0x11722]⟩

def spacing : Membership :=
  (Membership.unions [spacingMark, .range 0xE33 0xE33, .range 0xEB3 0xEB3]).diff
    (extend.union apart)

def leading : Membership := .unions [.range 0x1100 0x115F, .range 0xA960 0xA97C]

def vowel : Membership :=
  .unions [.range 0x1160 0x11A7, .range 0xD7B0 0xD7C6, .range 0x16D63 0x16D63,
    .range 0x16D67 0x16D6A]

def trailing : Membership := .unions [.range 0x11A8 0x11FF, .range 0xD7CB 0xD7FB]

/-- The first syllable and every 28th after it: those that end with their vowel. -/
def openSyllable : Membership :=
  ⟨((List.range 399).flatMap fun i => [0xAC00 + 28 * i, 0xAC01 + 28 * i]).toArray⟩

def closedSyllable : Membership := (Membership.range 0xAC00 0xD7A3).diff openSyllable

def classes : List (List String × Membership) := [
  (["control", "cn"], control),
  (["extend", "ex"], extend),
  (["prepend", "pp"], prepended),
  (["spacingmark", "sm"], spacing),
  (["cr"], carriageReturn),
  (["lf"], lineFeed),
  (["l"], leading),
  (["v"], vowel),
  (["t"], trailing),
  (["lv"], openSyllable),
  (["lvt"], closedSyllable),
  (["regionalindicator", "ri"], regionalIndicator),
  (["zwj"], zeroWidthJoiner)]

end Cluster

namespace Word

def extend : Membership := attached.union emojiModifier

def katakana : Membership := ⟨#[
    0x3031, 0x3036, 0x309B, 0x309D, 0x30A0, 0x30FB, 0x30FC, 0x3100, 0x31F0, 0x3200, 0x32D0,
    0x32FF, 0x3300, 0x3358, 0xFF66, 0xFF9E, 0x1AFF0, 0x1AFF4, 0x1AFF5, 0x1AFFC, 0x1AFFD, 0x1AFFF,
    0x1B000, 0x1B001, 0x1B120, 0x1B123, 0x1B155, 0x1B156, 0x1B164, 0x1B168]⟩

def hebrewLetter : Membership := WritingSystem.hebrew.members.inter otherLetter

/-- Letters of writing systems that do not part their words. -/
def contextual : Membership := ⟨#[
    0xE01, 0xE3B, 0xE40, 0xE4F, 0xE81, 0xE83, 0xE84, 0xE85, 0xE86, 0xE8B, 0xE8C, 0xEA4, 0xEA5,
    0xEA6, 0xEA7, 0xEBE, 0xEC0, 0xEC5, 0xEC6, 0xEC7, 0xEC8, 0xECF, 0xEDC, 0xEE0, 0x1000, 0x1040,
    0x1050, 0x1090, 0x109A, 0x10A0, 0x1780, 0x17D4, 0x17D7, 0x17D8, 0x17DC, 0x17DE, 0x1950,
    0x196E, 0x1970, 0x1975, 0x1980, 0x19AC, 0x19B0, 0x19CA, 0x19DA, 0x19DB, 0x19DE, 0x19E0,
    0x1A20, 0x1A5F, 0x1A60, 0x1A7D, 0x1AA0, 0x1AAE, 0xA9E0, 0xA9F0, 0xA9FA, 0xA9FF, 0xAA60,
    0xAAC3, 0xAADB, 0xAAE0, 0x11700, 0x1171B, 0x1171D, 0x1172C, 0x1173A, 0x1173C, 0x1173F,
    0x11747]⟩

/-- Signs that count as letters of a word. -/
def letterLike : Membership := ⟨#[
    0x2C2, 0x2C6, 0x2D2, 0x2D8, 0x2DE, 0x2E0, 0x2E5, 0x2EC, 0x2ED, 0x2EE, 0x2EF, 0x300, 0x55A,
    0x55D, 0x55E, 0x55F, 0x58A, 0x58B, 0x5F3, 0x5F4, 0xA708, 0xA717, 0xA720, 0xA722, 0xA789,
    0xA78B, 0xAB5B, 0xAB5C]⟩

def letter : Membership :=
  (alphabetic.union letterLike).diff (.unions [ideographic, katakana, contextual, extend,
    hebrewLetter, WritingSystem.hiragana.members])

def format : Membership :=
  Category.format.diff (.unions [.range 0x200B 0x200D, graphemeExtend])

def joiner : Membership := ⟨#[
    0x5F, 0x60, 0x202F, 0x2030, 0x203F, 0x2041, 0x2054, 0x2055, 0xFE33, 0xFE35, 0xFE4D, 0xFE50,
    0xFF3F, 0xFF40]⟩

def middleLetter : Membership := ⟨#[
    0x3A, 0x3B, 0xB7, 0xB8, 0x387, 0x388, 0x55F, 0x560, 0x5F4, 0x5F5, 0x2027, 0x2028, 0xFE13,
    0xFE14, 0xFE55, 0xFE56, 0xFF1A, 0xFF1B]⟩

def middleNumber : Membership := ⟨#[
    0x2C, 0x2D, 0x3B, 0x3C, 0x37E, 0x37F, 0x589, 0x58A, 0x60C, 0x60E, 0x66C, 0x66D, 0x7F8, 0x7F9,
    0x2044, 0x2045, 0xFE10, 0xFE11, 0xFE14, 0xFE15, 0xFE50, 0xFE51, 0xFE54, 0xFE55, 0xFF0C,
    0xFF0D, 0xFF1B, 0xFF1C]⟩

def middle : Membership := ⟨#[
    0x2E, 0x2F, 0x2018, 0x201A, 0x2024, 0x2025, 0xFE52, 0xFE53, 0xFF07, 0xFF08, 0xFF0E, 0xFF0F]⟩

def numeric : Membership := ⟨#[
    0x30, 0x3A, 0x660, 0x66A, 0x66B, 0x66C, 0x6F0, 0x6FA, 0x7C0, 0x7CA, 0x966, 0x970, 0x9E6,
    0x9F0, 0xA66, 0xA70, 0xAE6, 0xAF0, 0xB66, 0xB70, 0xBE6, 0xBF0, 0xC66, 0xC70, 0xCE6, 0xCF0,
    0xD66, 0xD70, 0xDE6, 0xDF0, 0xE50, 0xE5A, 0xED0, 0xEDA, 0xF20, 0xF2A, 0x1040, 0x104A, 0x1090,
    0x109A, 0x17E0, 0x17EA, 0x1810, 0x181A, 0x1946, 0x1950, 0x19D0, 0x19DA, 0x1A80, 0x1A8A,
    0x1A90, 0x1A9A, 0x1B50, 0x1B5A, 0x1BB0, 0x1BBA, 0x1C40, 0x1C4A, 0x1C50, 0x1C5A, 0xA620,
    0xA62A, 0xA8D0, 0xA8DA, 0xA900, 0xA90A, 0xA9D0, 0xA9DA, 0xA9F0, 0xA9FA, 0xAA50, 0xAA5A,
    0xABF0, 0xABFA, 0xFF10, 0xFF1A, 0x104A0, 0x104AA, 0x10D30, 0x10D3A, 0x11066, 0x11070,
    0x110F0, 0x110FA, 0x11136, 0x11140, 0x111D0, 0x111DA, 0x112F0, 0x112FA, 0x11450, 0x1145A,
    0x114D0, 0x114DA, 0x11650, 0x1165A, 0x116C0, 0x116CA, 0x11730, 0x1173A, 0x118E0, 0x118EA,
    0x11950, 0x1195A, 0x11C50, 0x11C5A, 0x11D50, 0x11D5A, 0x11DA0, 0x11DAA, 0x11F50, 0x11F5A,
    0x16A60, 0x16A6A, 0x16AC0, 0x16ACA, 0x16B50, 0x16B5A, 0x1D7CE, 0x1D800, 0x1E140, 0x1E14A,
    0x1E2F0, 0x1E2FA, 0x1E4F0, 0x1E4FA, 0x1E950, 0x1E95A, 0x1FBF0, 0x1FBFA]⟩

def newline : Membership :=
  .unions [.range 0xB 0xC, .range 0x85 0x85, .range 0x2028 0x2029]

def space : Membership :=
  spaceSeparator.diff (.unions [.range 0xA0 0xA0, .range 0x2007 0x2007, .range 0x202F 0x202F])

def classes : List (List String × Membership) := [
  (["aletter", "le"], letter),
  (["cr"], carriageReturn),
  (["doublequote", "dq"], .range 0x22 0x22),
  (["extend"], extend),
  (["extendnumlet", "ex"], joiner),
  (["format", "fo"], format),
  (["hebrewletter", "hl"], hebrewLetter),
  (["katakana", "ka"], katakana),
  (["lf"], lineFeed),
  (["midletter", "ml"], middleLetter),
  (["midnum", "mn"], middleNumber),
  (["midnumlet", "mb"], middle),
  (["newline", "nl"], newline),
  (["numeric", "nu"], numeric),
  (["regionalindicator", "ri"], regionalIndicator),
  (["singlequote", "sq"], .range 0x27 0x27),
  (["wsegspace"], space),
  (["zwj"], zeroWidthJoiner)]

end Word

namespace Sentence

def lower : Membership :=
  lowercase.diff (.unions [graphemeExtend, .range 0x10D0 0x10FA, .range 0x10FD 0x10FF])

def upper : Membership :=
  (uppercase.union titlecaseLetter).diff
    (.unions [.range 0x1C90 0x1CBA, .range 0x1CBD 0x1CBF])

def extend : Membership := attached.union zeroWidthJoiner

def letter : Membership :=
  (Membership.unions [alphabetic, .range 0x5F3 0x5F3]).diff (.unions [lower, upper, extend])

def format : Membership := Category.format.diff (.unions [.range 0x200C 0x200D, graphemeExtend])

def space : Membership :=
  whiteSpace.diff (.unions [lineEnds, .range 0x85 0x85, .range 0x2028 0x2029])

def separator : Membership := .unions [.range 0x85 0x85, .range 0x2028 0x2029]

/-- Full stops, which do not always end a sentence. -/
def ambiguousEnd : Membership := ⟨#[
    0x2E, 0x2F, 0x2024, 0x2025, 0xFE52, 0xFE53, 0xFF0E, 0xFF0F]⟩

def closing : Membership := ⟨#[
    0x22, 0x23, 0x27, 0x2A, 0x5B, 0x5C, 0x5D, 0x5E, 0x7B, 0x7C, 0x7D, 0x7E, 0xAB, 0xAC, 0xBB,
    0xBC, 0xF3A, 0xF3E, 0x169B, 0x169D, 0x2018, 0x2020, 0x2039, 0x203B, 0x2045, 0x2047, 0x207D,
    0x207F, 0x208D, 0x208F, 0x2308, 0x230C, 0x2329, 0x232B, 0x275B, 0x2761, 0x2768, 0x2776,
    0x27C5, 0x27C7, 0x27E6, 0x27F0, 0x2983, 0x2999, 0x29D8, 0x29DC, 0x29FC, 0x29FE, 0x2E00,
    0x2E0E, 0x2E1C, 0x2E1E, 0x2E20, 0x2E2A, 0x2E42, 0x2E43, 0x2E55, 0x2E5D, 0x3008, 0x3012,
    0x3014, 0x301C, 0x301D, 0x3020, 0xFD3E, 0xFD40, 0xFE17, 0xFE19, 0xFE35, 0xFE45, 0xFE47,
    0xFE49, 0xFE59, 0xFE5F, 0xFF08, 0xFF0A, 0xFF3B, 0xFF3C, 0xFF3D, 0xFF3E, 0xFF5B, 0xFF5C,
    0xFF5D, 0xFF5E, 0xFF5F, 0xFF61, 0xFF62, 0xFF64, 0x1F676, 0x1F679]⟩

def numeric : Membership := ⟨#[
    0x30, 0x3A, 0x660, 0x66A, 0x66B, 0x66D, 0x6F0, 0x6FA, 0x7C0, 0x7CA, 0x966, 0x970, 0x9E6,
    0x9F0, 0xA66, 0xA70, 0xAE6, 0xAF0, 0xB66, 0xB70, 0xBE6, 0xBF0, 0xC66, 0xC70, 0xCE6, 0xCF0,
    0xD66, 0xD70, 0xDE6, 0xDF0, 0xE50, 0xE5A, 0xED0, 0xEDA, 0xF20, 0xF2A, 0x1040, 0x104A, 0x1090,
    0x109A, 0x17E0, 0x17EA, 0x1810, 0x181A, 0x1946, 0x1950, 0x19D0, 0x19DA, 0x1A80, 0x1A8A,
    0x1A90, 0x1A9A, 0x1B50, 0x1B5A, 0x1BB0, 0x1BBA, 0x1C40, 0x1C4A, 0x1C50, 0x1C5A, 0xA620,
    0xA62A, 0xA8D0, 0xA8DA, 0xA900, 0xA90A, 0xA9D0, 0xA9DA, 0xA9F0, 0xA9FA, 0xAA50, 0xAA5A,
    0xABF0, 0xABFA, 0xFF10, 0xFF1A, 0x104A0, 0x104AA, 0x10D30, 0x10D3A, 0x11066, 0x11070,
    0x110F0, 0x110FA, 0x11136, 0x11140, 0x111D0, 0x111DA, 0x112F0, 0x112FA, 0x11450, 0x1145A,
    0x114D0, 0x114DA, 0x11650, 0x1165A, 0x116C0, 0x116CA, 0x11730, 0x1173A, 0x118E0, 0x118EA,
    0x11950, 0x1195A, 0x11C50, 0x11C5A, 0x11D50, 0x11D5A, 0x11DA0, 0x11DAA, 0x11F50, 0x11F5A,
    0x16A60, 0x16A6A, 0x16AC0, 0x16ACA, 0x16B50, 0x16B5A, 0x1D7CE, 0x1D800, 0x1E140, 0x1E14A,
    0x1E2F0, 0x1E2FA, 0x1E4F0, 0x1E4FA, 0x1E950, 0x1E95A, 0x1FBF0, 0x1FBFA]⟩

def continuing : Membership := ⟨#[
    0x2C, 0x2E, 0x3A, 0x3B, 0x55D, 0x55E, 0x60C, 0x60E, 0x7F8, 0x7F9, 0x1802, 0x1803, 0x1808,
    0x1809, 0x2013, 0x2015, 0x3001, 0x3002, 0xFE10, 0xFE12, 0xFE13, 0xFE14, 0xFE31, 0xFE33,
    0xFE50, 0xFE52, 0xFE55, 0xFE56, 0xFE58, 0xFE59, 0xFE63, 0xFE64, 0xFF0C, 0xFF0E, 0xFF1A,
    0xFF1B, 0xFF64, 0xFF65]⟩

def ending : Membership := ⟨#[
    0x21, 0x22, 0x3F, 0x40, 0x589, 0x58A, 0x61D, 0x620, 0x6D4, 0x6D5, 0x700, 0x703, 0x7F9, 0x7FA,
    0x837, 0x838, 0x839, 0x83A, 0x83D, 0x83F, 0x964, 0x966, 0x104A, 0x104C, 0x1362, 0x1363,
    0x1367, 0x1369, 0x166E, 0x166F, 0x1735, 0x1737, 0x1803, 0x1804, 0x1809, 0x180A, 0x1944,
    0x1946, 0x1AA8, 0x1AAC, 0x1B5A, 0x1B5C, 0x1B5E, 0x1B60, 0x1B7D, 0x1B7F, 0x1C3B, 0x1C3D,
    0x1C7E, 0x1C80, 0x203C, 0x203E, 0x2047, 0x204A, 0x2E2E, 0x2E2F, 0x2E3C, 0x2E3D, 0x2E53,
    0x2E55, 0x3002, 0x3003, 0xA4FF, 0xA500, 0xA60E, 0xA610, 0xA6F3, 0xA6F4, 0xA6F7, 0xA6F8,
    0xA876, 0xA878, 0xA8CE, 0xA8D0, 0xA92F, 0xA930, 0xA9C8, 0xA9CA, 0xAA5D, 0xAA60, 0xAAF0,
    0xAAF2, 0xABEB, 0xABEC, 0xFE56, 0xFE58, 0xFF01, 0xFF02, 0xFF1F, 0xFF20, 0xFF61, 0xFF62,
    0x10A56, 0x10A58, 0x10F55, 0x10F5A, 0x10F86, 0x10F8A, 0x11047, 0x11049, 0x110BE, 0x110C2,
    0x11141, 0x11144, 0x111C5, 0x111C7, 0x111CD, 0x111CE, 0x111DE, 0x111E0, 0x11238, 0x1123A,
    0x1123B, 0x1123D, 0x112A9, 0x112AA, 0x1144B, 0x1144D, 0x115C2, 0x115C4, 0x115C9, 0x115D8,
    0x11641, 0x11643, 0x1173C, 0x1173F, 0x11944, 0x11945, 0x11946, 0x11947, 0x11A42, 0x11A44,
    0x11A9B, 0x11A9D, 0x11C41, 0x11C43, 0x11EF7, 0x11EF9, 0x11F43, 0x11F45, 0x16A6E, 0x16A70,
    0x16AF5, 0x16AF6, 0x16B37, 0x16B39, 0x16B44, 0x16B45, 0x16E98, 0x16E99, 0x1BC9F, 0x1BCA0,
    0x1DA88, 0x1DA89]⟩

def classes : List (List String × Membership) := [
  (["aterm", "at"], ambiguousEnd),
  (["close", "cl"], closing),
  (["cr"], carriageReturn),
  (["extend", "ex"], extend),
  (["format", "fo"], format),
  (["lf"], lineFeed),
  (["lower", "lo"], lower),
  (["numeric", "nu"], numeric),
  (["oletter", "le"], letter),
  (["scontinue", "sc"], continuing),
  (["sep", "se"], separator),
  (["sp"], space),
  (["sterm", "st"], ending),
  (["upper", "up"], upper)]

end Sentence

end ModuleBundler.Unicode
