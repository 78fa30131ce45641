import Descent.CharSet.Property
import Descent.CharSet.Script

/-!
How characters are classed for the segmentation of a text into what a reader takes for one
character, into words and into sentences, as Unicode 16 has it.

Most classes follow from other properties, with lists of exceptions. In each of the three
classifications `named?` finds a class by its long or short name.
-/

namespace Descent.CharSet

/-! ## Grapheme clusters -/

namespace GraphemeBreak

/-- Characters that extend the one before them. -/
def extend : CharSet := Property.graphemeExtend.union Property.emojiModifier

/-- Consonants in front of the cluster that they belong to. -/
def prefixedConsonant : CharSet := ofRuns [
  (0xd4e, 0xd4e), (0x111c2, 0x111c3), (0x113d1, 0x113d1), (0x1193f, 0x1193f), (0x11941, 0x11941),
  (0x11a3a, 0x11a3a), (0x11a84, 0x11a89), (0x11d46, 0x11d46), (0x11f02, 0x11f02)] []

/-- Characters that are part of the cluster behind them. -/
def prepend : CharSet := Property.prependedConcatenationMark.union prefixedConsonant

/-- Characters that are never part of a cluster with others. -/
def control : CharSet :=
  (unionAll [Category.control, Category.format, Category.lineSeparator,
    Category.paragraphSeparator, Category.unassigned.inter Property.defaultIgnorable]).diff
    (unionAll [ofRanges [(0xa, 0xa), (0xd, 0xd), (0x200d, 0x200d)],
      Property.prependedConcatenationMark, extend])

/-- Spacing marks that stand apart from what is before them. -/
def detachedMark : CharSet := ofRuns [
  (0x102b, 0x102c), (0x1038, 0x1038), (0x1062, 0x1064), (0x1067, 0x106d), (0x1083, 0x1083),
  (0x1087, 0x108c), (0x108f, 0x108f), (0x109a, 0x109c), (0x1a61, 0x1a61), (0x1a63, 0x1a64),
  (0xaa7b, 0xaa7b), (0xaa7d, 0xaa7d), (0x11720, 0x11721)] []

/-- Spacing marks that are part of the cluster before them. -/
def spacingMark : CharSet :=
  ((Category.spacingMark.diff extend).diff detachedMark).union
    (ofRanges [(0xe33, 0xe33), (0xeb3, 0xeb3)])

/-- Consonants that begin a Korean syllable. -/
def leading : CharSet := ofRanges [(0x1100, 0x115f), (0xa960, 0xa97c)]

/-- Vowels in Korean syllables, and others that clusters are built from in the same way. -/
def vowel : CharSet :=
  ofRanges [(0x1160, 0x11a7), (0xd7b0, 0xd7c6), (0x16d63, 0x16d63), (0x16d67, 0x16d6a)]

/-- Consonants that end a Korean syllable. -/
def trailing : CharSet := ofRanges [(0x11a8, 0x11ff), (0xd7cb, 0xd7fb)]

/-- Korean syllables that end with a vowel. -/
def openSyllable : CharSet :=
  ofRanges ((List.range 399).map fun i => (0xac00 + 28 * i, 0xac00 + 28 * i))

/-- Korean syllables that end with a consonant. -/
def closedSyllable : CharSet := (ofRanges [(0xac00, 0xd7a3)]).diff openSyllable

/-- A class of characters; names are in small letters, without spaces. -/
def named? : String → Option CharSet
  | "cr" => some (single '\r')
  | "lf" => some (single '\n')
  | "control" | "cn" => some control
  | "extend" | "ex" => some extend
  | "prepend" | "pp" => some prepend
  | "spacingmark" | "sm" => some spacingMark
  | "l" => some leading
  | "v" => some vowel
  | "t" => some trailing
  | "lv" => some openSyllable
  | "lvt" => some closedSyllable
  | "regionalindicator" | "ri" => some Property.regionalIndicator
  | "zwj" => some (single '\u200d')
  | _ => none

end GraphemeBreak

/-! ## What words and sentences have in common -/

/-- The characters of a script. -/
def ofScript (name : String) : CharSet := ((Script.named? name).map Script.set).getD empty

/-- Characters of scripts that are written without spaces between words. -/
def complexContext : CharSet := ofRuns [
  (0xe01, 0xe3a), (0xe40, 0xe4e), (0xe81, 0xe82), (0xe84, 0xe84), (0xe86, 0xe8a), (0xe8c, 0xea3),
  (0xea5, 0xea5), (0xea7, 0xebd), (0xec0, 0xec4), (0xec6, 0xec6), (0xec8, 0xece), (0xedc, 0xedf),
  (0x1000, 0x103f), (0x1050, 0x108f), (0x109a, 0x109f), (0x1780, 0x17d3), (0x17d7, 0x17d7),
  (0x17dc, 0x17dd), (0x1950, 0x196d), (0x1970, 0x1974), (0x1980, 0x19ab), (0x19b0, 0x19c9),
  (0x19da, 0x19da), (0x19de, 0x19df), (0x1a20, 0x1a5e), (0x1a60, 0x1a7c), (0x1aa0, 0x1aad),
  (0xa9e0, 0xa9ef), (0xa9fa, 0xa9fe), (0xaa60, 0xaac2), (0xaadb, 0xaadf), (0x116d0, 0x116e3),
  (0x11700, 0x1171a), (0x1171d, 0x1172b), (0x1173a, 0x1173b), (0x1173f, 0x11746)] []

/-- The mark that abbreviates words in Syriac. -/
def abbreviationMark : CharSet := single '\u070f'

/-- Digits, and what belongs to a number in front of it or inside of it. -/
def numberPart : CharSet :=
  unionAll [decimalDigit, single '\u066b',
    Property.prependedConcatenationMark.diff abbreviationMark]

/-- Characters that extend the one before them in a word or sentence. -/
def extending : CharSet := Property.graphemeExtend.union Category.spacingMark

/-! ## Words -/

namespace WordBreak

/-- Characters that extend the one before them. -/
def extend : CharSet := extending.union Property.emojiModifier

/-- Format characters that words are not concerned with. -/
def format : CharSet :=
  Category.format.diff
    (unionAll [ofRanges [(0x200b, 0x200d)], extend, Property.prependedConcatenationMark])

/-- Characters of words in Katakana. -/
def katakana : CharSet :=
  (ofScript "katakana").union (ofRanges [(0x3031, 0x3035), (0x309b, 0x309c), (0x30a0, 0x30a0),
    (0x30fc, 0x30fc), (0xff70, 0xff70)])

def hebrewLetter : CharSet := (ofScript "hebrew").inter Category.otherLetter

/-- Signs that are used as letters. -/
def letterSign : CharSet := ofRuns [
  (0x2c2, 0x2c5), (0x2d2, 0x2d7), (0x2de, 0x2df), (0x2e5, 0x2eb), (0x2ed, 0x2ed), (0x2ef, 0x2ff),
  (0x55a, 0x55c), (0x55e, 0x55e), (0x58a, 0x58a), (0x5f3, 0x5f3), (0x70f, 0x70f), (0xa708, 0xa716),
  (0xa720, 0xa721), (0xa789, 0xa78a), (0xab5b, 0xab5b)] []

/-- Letters of words. -/
def letter : CharSet :=
  (Property.alphabetic.union letterSign).diff
    (unionAll [Property.ideographic, katakana, complexContext, ofScript "hiragana", extend,
      hebrewLetter])

/-- Punctuation between letters. -/
def midLetter : CharSet := ofRuns [
  (0x3a, 0x3a), (0xb7, 0xb7), (0x387, 0x387), (0x55f, 0x55f), (0x5f4, 0x5f4), (0x2027, 0x2027),
  (0xfe13, 0xfe13), (0xfe55, 0xfe55), (0xff1a, 0xff1a)] []

/-- Punctuation between digits. -/
def midNumber : CharSet := ofRuns [
  (0x2c, 0x2c), (0x3b, 0x3b), (0x37e, 0x37e), (0x589, 0x589), (0x60c, 0x60d), (0x66c, 0x66c),
  (0x7f8, 0x7f8), (0x2044, 0x2044), (0xfe10, 0xfe10), (0xfe14, 0xfe14), (0xfe50, 0xfe50),
  (0xfe54, 0xfe54), (0xff0c, 0xff0c), (0xff1b, 0xff1b)] []

/-- Punctuation between letters and between digits. -/
def midNumberOrLetter : CharSet := ofRuns [
  (0x2e, 0x2e), (0x2018, 0x2019), (0x2024, 0x2024), (0xfe52, 0xfe52), (0xff07, 0xff07),
  (0xff0e, 0xff0e)] []

/-- Characters that join letters and digits to one word. -/
def joiner : CharSet := Category.connectorPunctuation.union (single '\u202f')

/-- Spaces that are kept together. -/
def space : CharSet :=
  Category.spaceSeparator.diff (ofRanges [(0xa0, 0xa0), (0x2007, 0x2007), (0x202f, 0x202f)])

/-- A class of characters; names are in small letters, without spaces. -/
def named? : String → Option CharSet
  | "cr" => some (single '\r')
  | "lf" => some (single '\n')
  | "newline" | "nl" =>
    some (ofRanges [(0xb, 0xc), (0x85, 0x85), (0x2028, 0x2029)])
  | "extend" => some extend
  | "zwj" => some (single '\u200d')
  | "regionalindicator" | "ri" => some Property.regionalIndicator
  | "format" | "fo" => some format
  | "katakana" | "ka" => some katakana
  | "hebrewletter" | "hl" => some hebrewLetter
  | "aletter" | "le" => some letter
  | "singlequote" | "sq" => some (single '\x27')
  | "doublequote" | "dq" => some (single '\x22')
  | "midletter" | "ml" => some midLetter
  | "midnum" | "mn" => some midNumber
  | "midnumlet" | "mb" => some midNumberOrLetter
  | "numeric" | "nu" => some numberPart
  | "extendnumlet" | "ex" => some joiner
  | "wsegspace" => some space
  | _ => none

end WordBreak

/-! ## Sentences -/

namespace SentenceBreak

/-- Characters that extend the one before them. -/
def extend : CharSet := extending.union (single '\u200d')

/-- Format characters that sentences are not concerned with. -/
def format : CharSet := Category.format.diff (extend.union numberPart)

/-- Line breaks that end a paragraph. -/
def separator : CharSet := ofRanges [(0x85, 0x85), (0x2028, 0x2029)]

/-- Spaces between sentences. -/
def space : CharSet :=
  whiteSpace.diff (separator.union (ofRanges [(0xa, 0xa), (0xd, 0xd)]))

/-- Lowercase characters, without those of Georgian. -/
def lower : CharSet :=
  (Property.lowercase.diff (ofRanges [(0x10d0, 0x10fa), (0x10fd, 0x10ff)])).diff extend

/-- Characters that a sentence begins with, without those of Georgian. -/
def upper : CharSet :=
  (Category.titlecaseLetter.union Property.uppercase).diff
    (ofRanges [(0x1c90, 0x1cba), (0x1cbd, 0x1cbf)])

/-- Letters without case. -/
def otherLetter : CharSet :=
  (Property.alphabetic.union (single '\u05f3')).diff (unionAll [lower, upper, extend])

/-- Points that may end a sentence. -/
def fullStop : CharSet := ofRuns [
  (0x2e, 0x2e), (0x2024, 0x2024), (0xfe52, 0xfe52), (0xff0e, 0xff0e)] []

/-- Punctuation that ends a sentence. -/
def terminal : CharSet := Property.sentenceTerminal.diff fullStop

/-- Punctuation after which a sentence goes on. -/
def continuation : CharSet := ofRuns [
  (0x2c, 0x2d), (0x3a, 0x3b), (0x37e, 0x37e), (0x55d, 0x55d), (0x60c, 0x60d), (0x7f8, 0x7f8),
  (0x1802, 0x1802), (0x1808, 0x1808), (0x2013, 0x2014), (0x3001, 0x3001), (0xfe10, 0xfe11),
  (0xfe13, 0xfe14), (0xfe31, 0xfe32), (0xfe50, 0xfe51), (0xfe54, 0xfe55), (0xfe58, 0xfe58),
  (0xfe63, 0xfe63), (0xff0c, 0xff0d), (0xff1a, 0xff1b), (0xff64, 0xff64)] []

/-- Quotation marks that neither open nor close. -/
def plainQuotation : CharSet := ofRuns [
  (0x22, 0x22), (0x27, 0x27), (0x275b, 0x2760), (0x2e00, 0x2e01), (0x2e06, 0x2e08),
  (0x2e0b, 0x2e0b), (0x1f676, 0x1f678)] []

/-- Brackets and quotation marks. -/
def closing : CharSet :=
  (unionAll [Category.openPunctuation, Category.closePunctuation, Category.initialPunctuation,
    Category.finalPunctuation, plainQuotation]).diff (fullStop.union terminal)

/-- A class of characters; names are in small letters, without spaces. -/
def named? : String → Option CharSet
  | "cr" => some (single '\r')
  | "lf" => some (single '\n')
  | "extend" | "ex" => some extend
  | "sep" | "se" => some separator
  | "format" | "fo" => some format
  | "sp" => some space
  | "lower" | "lo" => some lower
  | "upper" | "up" => some upper
  | "oletter" | "le" => some otherLetter
  | "numeric" | "nu" => some (numberPart.union (single '\u066c'))
  | "aterm" | "at" => some fullStop
  | "scontinue" | "sc" => some continuation
  | "sterm" | "st" => some terminal
  | "close" | "cl" => some closing
  | _ => none

end SentenceBreak

end Descent.CharSet
