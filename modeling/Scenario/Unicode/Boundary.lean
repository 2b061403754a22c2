import Scenario.Unicode.Property
import Scenario.Unicode.Script

/-!
# Boundaries — the classes that cut a text into graphemes, words and sentences

Each of the three ways of cutting a text divides the characters into
classes, composed here from general categories, properties, scripts and a
few lists of single characters. Every class has a short and a long name in
loose form, which may be the same. The class of all the characters in no
other one has no name here.
-/

namespace Scenario
namespace Unicode
namespace Boundary

/-- The carriage return. -/
def carriageReturn : CharSet := .single '\r'

/-- The line feed. -/
def lineFeed : CharSet := .single '\n'

/-- The character that joins the graphemes around it. -/
def joiner : CharSet := .single '\u200d'

/-- The character that keeps the graphemes around it apart. -/
def nonJoiner : CharSet := .single '\u200c'

/-- The letters of flags. -/
def regionalIndicator : CharSet := ⟨Listed.regionalIndicator⟩

/-- The format characters. -/
def format : CharSet := ⟨Category.format⟩

/-- The marks that take width. -/
def spacingMark : CharSet := ⟨Category.spacingMark⟩

/-! ## Graphemes -/

/-- Characters that belong to the grapheme after them. -/
def prepend : CharSet :=
  .ofTables [Listed.prependedConcatenationMark,
    [(0xD4E, 0xD4E), (0x111C2, 0x111C3), (0x113D1, 0x113D1), (0x1193F, 0x1193F),
     (0x11941, 0x11941), (0x11A3A, 0x11A3A), (0x11A84, 0x11A89), (0x11D46, 0x11D46),
     (0x11F02, 0x11F02)]]

/-- Characters that extend the grapheme before them, a change of skin tone
among them. -/
def extend : CharSet := (graphemeExtend ∪ ⟨Listed.emojiModifier⟩) \ joiner

/-- Characters that stand alone. -/
def control : CharSet :=
  (.ofTables [Category.lineSeparator, Category.paragraphSeparator, Category.control,
    Category.format] ∪ unassigned ∩ ⟨Listed.defaultIgnorable⟩) \
  (carriageReturn ∪ lineFeed ∪ joiner ∪ nonJoiner ∪ ⟨Listed.prependedConcatenationMark⟩ ∪
    graphemeExtend)

/-- Spacing marks that are graphemes of their own. -/
def standaloneMark : CharSet :=
  ⟨[(0x102B, 0x102C), (0x1038, 0x1038), (0x1062, 0x1064), (0x1067, 0x106D), (0x1083, 0x1083),
    (0x1087, 0x108C), (0x108F, 0x108F), (0x109A, 0x109C), (0x1A61, 0x1A61), (0x1A63, 0x1A64),
    (0xAA7B, 0xAA7B), (0xAA7D, 0xAA7D), (0x11720, 0x11721)]⟩

/-- Spacing marks that belong to the grapheme before them. -/
def trailingMark : CharSet :=
  (spacingMark ∪ ⟨[(0xE33, 0xE33), (0xEB3, 0xEB3)]⟩) \ (graphemeExtend ∪ standaloneMark)

/-- Leading consonants of Hangul. -/
def leadingJamo : CharSet := ⟨[(0x1100, 0x115F), (0xA960, 0xA97C)]⟩

/-- Vowels of Hangul, and those of scripts that join them the same way. -/
def vowelJamo : CharSet :=
  ⟨[(0x1160, 0x11A7), (0xD7B0, 0xD7C6), (0x16D63, 0x16D63), (0x16D67, 0x16D6A)]⟩

/-- Trailing consonants of Hangul. -/
def trailingJamo : CharSet := ⟨[(0x11A8, 0x11FF), (0xD7CB, 0xD7FB)]⟩

/-- Syllables of Hangul that end in a vowel; every twenty-eighth does. -/
def openSyllable : CharSet :=
  ⟨(List.range 399).map fun k => (0xAC00 + 28 * k, 0xAC00 + 28 * k)⟩

/-- Syllables of Hangul that end in a consonant. -/
def closedSyllable : CharSet :=
  ⟨(List.range 399).map fun k => (0xAC01 + 28 * k, 0xAC1B + 28 * k)⟩

/-- The classes of characters in graphemes. -/
def graphemeClasses : List (List String × CharSet) :=
  [(["cr"], carriageReturn),
   (["lf"], lineFeed),
   (["cn", "control"], control),
   (["ex", "extend"], extend),
   (["zwj"], joiner),
   (["ri", "regionalindicator"], regionalIndicator),
   (["pp", "prepend"], prepend),
   (["sm", "spacingmark"], trailingMark),
   (["l"], leadingJamo),
   (["v"], vowelJamo),
   (["t"], trailingJamo),
   (["lv"], openSyllable),
   (["lvt"], closedSyllable)]

/-! ## Words -/

/-- Characters of the scripts that write words without spaces between
them. -/
def unspaced : CharSet :=
  ⟨[(0xE01, 0xE3A), (0xE40, 0xE4E), (0xE81, 0xE82), (0xE84, 0xE84), (0xE86, 0xE8A),
    (0xE8C, 0xEA3), (0xEA5, 0xEA5), (0xEA7, 0xEBD), (0xEC0, 0xEC4), (0xEC6, 0xEC6),
    (0xEC8, 0xECE), (0xEDC, 0xEDF), (0x1000, 0x103F), (0x1050, 0x108F), (0x109A, 0x109F),
    (0x1780, 0x17D3), (0x17D7, 0x17D7), (0x17DC, 0x17DD), (0x1950, 0x196D), (0x1970, 0x1974),
    (0x1980, 0x19AB), (0x19B0, 0x19C9), (0x19DA, 0x19DA), (0x19DE, 0x19DF), (0x1A20, 0x1A5E),
    (0x1A60, 0x1A7C), (0x1AA0, 0x1AAD), (0xA9E0, 0xA9EF), (0xA9FA, 0xA9FE), (0xAA60, 0xAAC2),
    (0xAADB, 0xAADF), (0x11700, 0x1171A), (0x1171D, 0x1172B), (0x1173A, 0x1173B),
    (0x1173F, 0x11746)]⟩

/-- Signs that stand with digits, the Arabic separators among them. -/
def numberSign : CharSet :=
  ⟨[(0x600, 0x605), (0x66B, 0x66C), (0x6DD, 0x6DD), (0x890, 0x891), (0x8E2, 0x8E2),
    (0x110BD, 0x110BD), (0x110CD, 0x110CD)]⟩

/-- Characters that a word goes on through. -/
def wordExtend : CharSet := (graphemeExtend ∪ spacingMark ∪ ⟨Listed.emojiModifier⟩) \ joiner

/-- Formats inside words. -/
def wordFormat : CharSet :=
  format \ (⟨[(0x200B, 0x200D)]⟩ ∪ graphemeExtend ∪ prepend)

/-- The characters of Katakana and the marks written with them. -/
def katakana : CharSet :=
  .ofTables [Script.katakana.ranges,
    [(0x3031, 0x3035), (0x309B, 0x309C), (0x30A0, 0x30A0), (0x30FC, 0x30FC), (0xFF70, 0xFF70)]]

/-- The letters of Hebrew. -/
def hebrewLetter : CharSet := ⟨Script.hebrew.ranges⟩ ∩ ⟨Category.otherLetter⟩

/-- The other letters of words. -/
def wordLetter : CharSet :=
  (alphabetic ∪
    ⟨[(0xB8, 0xB8), (0x2C2, 0x2C5), (0x2D2, 0x2D7), (0x2DE, 0x2DF), (0x2E5, 0x2EB), (0x2ED, 0x2ED),
      (0x2EF, 0x2FF), (0x55A, 0x55C), (0x55E, 0x55E), (0x58A, 0x58A), (0x5F3, 0x5F3),
      (0x70F, 0x70F), (0xA708, 0xA716), (0xA720, 0xA721), (0xA789, 0xA78A), (0xAB5B, 0xAB5B)]⟩) \
  (⟨Listed.ideographic⟩ ∪ katakana ∪ unspaced ∪ ⟨Script.hiragana.ranges⟩ ∪ wordExtend ∪
    hebrewLetter)

/-- The digits of words and the signs that stand with them. -/
def wordNumeric : CharSet :=
  (digit ∪ numberSign ∪ ⟨[(0xFF10, 0xFF19)]⟩) \ ⟨[(0x66C, 0x66C)]⟩

/-- Punctuation inside words and numbers. -/
def midNumberLetter : CharSet :=
  ⟨[(0x2E, 0x2E), (0x2018, 0x2019), (0x2024, 0x2024), (0xFE52, 0xFE52), (0xFF07, 0xFF07),
    (0xFF0E, 0xFF0E)]⟩

/-- Punctuation inside words. -/
def midLetter : CharSet :=
  ⟨[(0x3A, 0x3A), (0xB7, 0xB7), (0x387, 0x387), (0x55F, 0x55F), (0x5F4, 0x5F4), (0x2027, 0x2027),
    (0xFE13, 0xFE13), (0xFE55, 0xFE55), (0xFF1A, 0xFF1A)]⟩

/-- Punctuation inside numbers. -/
def midNumber : CharSet :=
  ⟨[(0x2C, 0x2C), (0x3B, 0x3B), (0x37E, 0x37E), (0x589, 0x589), (0x60C, 0x60D), (0x66C, 0x66C),
    (0x7F8, 0x7F8), (0x2044, 0x2044), (0xFE10, 0xFE10), (0xFE14, 0xFE14), (0xFE50, 0xFE50),
    (0xFE54, 0xFE54), (0xFF0C, 0xFF0C), (0xFF1B, 0xFF1B)]⟩

/-- Spaces at which a line may break. -/
def wordSpace : CharSet :=
  ⟨Category.spaceSeparator⟩ \ ⟨[(0xA0, 0xA0), (0x2007, 0x2007), (0x202F, 0x202F)]⟩

/-- The classes of characters in words. -/
def wordClasses : List (List String × CharSet) :=
  [(["cr"], carriageReturn),
   (["lf"], lineFeed),
   (["nl", "newline"], ⟨[(0xB, 0xC), (0x85, 0x85), (0x2028, 0x2029)]⟩),
   (["extend"], wordExtend),
   (["zwj"], joiner),
   (["ri", "regionalindicator"], regionalIndicator),
   (["fo", "format"], wordFormat),
   (["ka", "katakana"], katakana),
   (["hl", "hebrewletter"], hebrewLetter),
   (["le", "aletter"], wordLetter),
   (["sq", "singlequote"], .single '\''),
   (["dq", "doublequote"], .single '"'),
   (["mb", "midnumlet"], midNumberLetter),
   (["ml", "midletter"], midLetter),
   (["mn", "midnum"], midNumber),
   (["nu", "numeric"], wordNumeric),
   (["ex", "extendnumlet"], ⟨Category.connectorPunctuation⟩ ∪ .single '\u202f'),
   (["wsegspace"], wordSpace)]

/-! ## Sentences -/

/-- Characters that a sentence goes on through. -/
def sentenceExtend : CharSet := graphemeExtend ∪ joiner ∪ spacingMark

/-- Characters that end a paragraph. -/
def paragraphEnd : CharSet := ⟨[(0x85, 0x85), (0x2028, 0x2029)]⟩

/-- The digits of sentences and the signs that stand with them. -/
def sentenceNumeric : CharSet := digit ∪ numberSign ∪ ⟨[(0xFF10, 0xFF19)]⟩

/-- Formats inside sentences. -/
def sentenceFormat : CharSet := format \ (joiner ∪ nonJoiner ∪ graphemeExtend ∪ sentenceNumeric)

/-- Spaces inside sentences. -/
def sentenceSpace : CharSet := whiteSpace \ (paragraphEnd ∪ carriageReturn ∪ lineFeed)

/-- Lowercase letters of sentences; those of Georgian do not count. -/
def sentenceLower : CharSet :=
  lowercase \ (graphemeExtend ∪ ⟨[(0x10D0, 0x10FA), (0x10FD, 0x10FF)]⟩)

/-- Uppercase letters of sentences; those of Georgian do not count. -/
def sentenceUpper : CharSet :=
  (uppercase ∪ ⟨Category.titlecaseLetter⟩) \ ⟨[(0x1C90, 0x1CBA), (0x1CBD, 0x1CBF)]⟩

/-- The other letters of sentences. -/
def sentenceLetter : CharSet :=
  (alphabetic ∪ .single '\u05f3') \ (sentenceLower ∪ sentenceUpper ∪ sentenceExtend)

/-- Full stops. -/
def fullStop : CharSet :=
  ⟨[(0x2E, 0x2E), (0x2024, 0x2024), (0xFE52, 0xFE52), (0xFF0E, 0xFF0E)]⟩

/-- Punctuation after which a sentence goes on. -/
def sentenceContinue : CharSet :=
  ⟨[(0x2C, 0x2D), (0x3A, 0x3B), (0x37E, 0x37E), (0x55D, 0x55D), (0x60C, 0x60D), (0x7F8, 0x7F8),
    (0x1802, 0x1802), (0x1808, 0x1808), (0x2013, 0x2014), (0x3001, 0x3001), (0xFE10, 0xFE11),
    (0xFE13, 0xFE14), (0xFE31, 0xFE32), (0xFE50, 0xFE51), (0xFE54, 0xFE55), (0xFE58, 0xFE58),
    (0xFE63, 0xFE63), (0xFF0C, 0xFF0D), (0xFF1A, 0xFF1B), (0xFF64, 0xFF64)]⟩

/-- The other ends of sentences. -/
def sentenceEnd : CharSet := ⟨Listed.sentenceTerminal⟩ \ fullStop

/-- Brackets and quotation marks. -/
def sentenceClose : CharSet :=
  .ofTables [Category.openPunctuation, Category.closePunctuation, Category.initialPunctuation,
    Category.finalPunctuation,
    [(0x22, 0x22), (0x27, 0x27), (0x275B, 0x2760), (0x2E00, 0x2E01), (0x2E06, 0x2E08),
     (0x2E0B, 0x2E0B), (0x1F676, 0x1F678)]]

/-- The classes of characters in sentences. -/
def sentenceClasses : List (List String × CharSet) :=
  [(["cr"], carriageReturn),
   (["lf"], lineFeed),
   (["ex", "extend"], sentenceExtend),
   (["se", "sep"], paragraphEnd),
   (["fo", "format"], sentenceFormat),
   (["sp"], sentenceSpace),
   (["lo", "lower"], sentenceLower),
   (["up", "upper"], sentenceUpper),
   (["le", "oletter"], sentenceLetter),
   (["nu", "numeric"], sentenceNumeric),
   (["at", "aterm"], fullStop),
   (["sc", "scontinue"], sentenceContinue),
   (["st", "sterm"], sentenceEnd),
   (["cl", "close"], sentenceClose)]

end Boundary
end Unicode
end Scenario
