import MetricScraper.Unicode.Category
import MetricScraper.Unicode.Property
import MetricScraper.Unicode.Script

/-!
# Text segmentation

Where a text may be cut into user-perceived characters, words and sentences hangs on the classes of
its characters.  The classes are derived here from categories, properties and scripts; only what
follows from none of them is listed.
-/

namespace MetricScraper.Unicode

/-! ### Shared classes -/

def zeroWidthJoiner : CharSet := CharSet.single 0x200D

/-- Marks and modifiers that never begin a user-perceived character. -/
def graphemeExtenders : CharSet :=
  CharSet.union (property "graphemeextend") (property "emojimodifier")

/-- Signs that are written around the digits that follow them. -/
def numberSigns : CharSet :=
  CharSet.diff (property "prependedconcatenationmark") (CharSet.single 0x70F)

/-- Digits, the signs that belong to numbers, and the decimal separator of Arabic. -/
def numerals : CharSet := CharSet.unions [category "Nd", numberSigns, CharSet.ofText "66B 19DA"]

/-- The syllables of Hangul without a final consonant. -/
def openSyllables : CharSet :=
  CharSet.ofCodePoints ((List.range 399).map fun i => 0xAC00 + 28 * i)

/-! ### User-perceived characters -/

/-- Letters and signs that belong to the character after them. -/
def prependedSet : CharSet :=
  CharSet.union (property "prependedconcatenationmark")
    (CharSet.ofText "D4E 111C2-111C3 113D1 1193F 11941 11A3A 11A84-11A89 11D46 11F02")

/-- Controls: characters that stand for themselves. -/
def controlSet : CharSet :=
  CharSet.diff
    (CharSet.union (categories ["Zl", "Zp", "Cc", "Cf"])
      (CharSet.inter (category "Cn") (property "defaultignorablecodepoint")))
    (CharSet.unions [CharSet.ofText "A D", zeroWidthJoiner, graphemeExtenders,
      property "prependedconcatenationmark"])

/-- Spacing marks that stay with the character before them. -/
def spacingMarkSet : CharSet :=
  CharSet.diff (CharSet.union (category "Mc") (CharSet.ofText "E33 EB3"))
    (CharSet.union graphemeExtenders
      (CharSet.ofText "102B-102C 1038 1062-1064 1067-106D 1083 1087-108C 108F 109A-109C 1A61
        1A63-1A64 AA7B AA7D 11720-11721"))

/-- The class of characters with one behaviour in user-perceived characters, by a loose name. -/
def graphemeBreakOfName? (name : String) : Option CharSet :=
  match name with
  | "cr" => some (CharSet.single 0xD)
  | "lf" => some (CharSet.single 0xA)
  | "control" | "cn" => some controlSet
  | "extend" | "ex" => some graphemeExtenders
  | "zwj" => some zeroWidthJoiner
  | "regionalindicator" | "ri" => some (property "regionalindicator")
  | "prepend" | "pp" => some prependedSet
  | "spacingmark" | "sm" => some spacingMarkSet
  | "l" => some (CharSet.ofText "1100-115F A960-A97C")
  | "v" => some (CharSet.ofText "1160-11A7 D7B0-D7C6 16D63 16D67-16D6A")
  | "t" => some (CharSet.ofText "11A8-11FF D7CB-D7FB")
  | "lv" => some openSyllables
  | "lvt" => some (CharSet.diff (CharSet.range 0xAC00 0xD7A3) openSyllables)
  | _ => none

/-! ### Words -/

/-- Characters that a word passes over. -/
def wordExtendSet : CharSet :=
  CharSet.diff (CharSet.union graphemeExtenders (category "Mc")) zeroWidthJoiner

def wordFormatSet : CharSet :=
  CharSet.diff (category "Cf")
    (CharSet.unions [CharSet.ofText "200B 200D", wordExtendSet,
      property "prependedconcatenationmark"])

def katakanaSet : CharSet :=
  CharSet.union ((scriptOfName? "katakana").getD CharSet.empty)
    (CharSet.ofText "3031-3035 309B-309C 30A0 30FC FF70")

def hebrewLetterSet : CharSet :=
  CharSet.inter ((scriptOfName? "hebrew").getD CharSet.empty) (category "Lo")

/-- Characters of scripts that write words without blanks between them. -/
def unspacedSet : CharSet :=
  CharSet.ofText "E01-E3A E40-E4E E81-E82 E84 E86-E8A E8C-EA3 EA5 EA7-EBD EC0-EC4 EC6 EC8-ECE
    EDC-EDF 1000-103F 1050-108F 109A-109F 1780-17D3 17D7 17DC-17DD 1950-196D 1970-1974 1980-19AB
    19B0-19C9 19DE-19DF 1A20-1A5E 1A60-1A7C 1AA0-1AAD A9E0-A9EF A9FA-A9FE AA60-AAC2 AADB-AADF
    11700-1171A 1171D-1172B 1173A-1173B 1173F-11746"

/-- Letters of words: alphabetic characters and a few signs, but not those of scripts that write
words without blanks between them. -/
def wordLetterSet : CharSet :=
  CharSet.diff
    (CharSet.union (property "alphabetic")
      (CharSet.ofText "B8 2C2-2C5 2D2-2D7 2DE-2DF 2E5-2EB 2ED 2EF-2FF 55A-55C 55E 58A 5F3 70F
        A708-A716 A720-A721 A789-A78A AB5B"))
    (CharSet.unions [property "ideographic", katakanaSet, unspacedSet,
      (scriptOfName? "hiragana").getD CharSet.empty, wordExtendSet, hebrewLetterSet])

/-- The class of characters with one behaviour in words, by a loose name. -/
def wordBreakOfName? (name : String) : Option CharSet :=
  match name with
  | "cr" => some (CharSet.single 0xD)
  | "lf" => some (CharSet.single 0xA)
  | "newline" | "nl" => some (CharSet.ofText "B-C 85 2028-2029")
  | "doublequote" | "dq" => some (CharSet.single 0x22)
  | "singlequote" | "sq" => some (CharSet.single 0x27)
  | "extend" => some wordExtendSet
  | "zwj" => some zeroWidthJoiner
  | "format" | "fo" => some wordFormatSet
  | "regionalindicator" | "ri" => some (property "regionalindicator")
  | "katakana" | "ka" => some katakanaSet
  | "hebrewletter" | "hl" => some hebrewLetterSet
  | "aletter" | "le" => some wordLetterSet
  | "midletter" | "ml" => some (CharSet.ofText "3A B7 387 55F 5F4 2027 FE13 FE55 FF1A")
  | "midnumlet" | "mb" => some (CharSet.ofText "2E 2018-2019 2024 FE52 FF07 FF0E")
  | "midnum" | "mn" =>
    some (CharSet.ofText "2C 3B 37E 589 60C-60D 66C 7F8 2044 FE10 FE14 FE50 FE54 FF0C FF1B")
  | "numeric" | "nu" => some numerals
  | "extendnumlet" | "ex" => some (CharSet.union (category "Pc") (CharSet.single 0x202F))
  | "wsegspace" => some (CharSet.diff (category "Zs") (CharSet.ofText "A0 2007 202F"))
  | _ => none

/-! ### Sentences -/

/-- Full stops, which need not end a sentence. -/
def fullStopSet : CharSet := CharSet.ofText "2E 2024 FE52 FF0E"

def sentenceExtendSet : CharSet :=
  CharSet.unions [property "graphemeextend", category "Mc", zeroWidthJoiner]

def sentenceFormatSet : CharSet :=
  CharSet.diff (category "Cf") (CharSet.union sentenceExtendSet numberSigns)

/-- What separates paragraphs, besides carriage return and line feed. -/
def separatorSet : CharSet := CharSet.ofText "85 2028-2029"

/-- Lower case letters, but not those of Georgian. -/
def sentenceLowerSet : CharSet :=
  CharSet.diff (property "lowercase")
    (CharSet.union (property "graphemeextend") (CharSet.ofText "10D0-10FA 10FD-10FF"))

/-- Upper and title case letters, but not those of Georgian. -/
def sentenceUpperSet : CharSet :=
  CharSet.diff (CharSet.union (category "Lt") (property "uppercase"))
    (CharSet.ofText "1C90-1CBA 1CBD-1CBF")

/-- Letters without case. -/
def sentenceLetterSet : CharSet :=
  CharSet.diff (CharSet.union (property "alphabetic") (CharSet.single 0x5F3))
    (CharSet.unions [sentenceLowerSet, sentenceUpperSet, sentenceExtendSet])

/-- Marks that end a sentence. -/
def terminatorSet : CharSet := CharSet.diff (property "sentenceterminal") fullStopSet

/-- Brackets and quotation marks, which may follow the end of a sentence. -/
def closingSet : CharSet :=
  CharSet.diff
    (CharSet.union (categories ["Ps", "Pe", "Pi", "Pf"])
      (CharSet.ofText "22 27 AB BB 2018-2019 201B-201D 201F 2039-203A 275B-2760 2E00-2E0D
        2E1C-2E1D 2E20-2E21 1F676-1F678"))
    (CharSet.unions [CharSet.single 0x5F3, fullStopSet, terminatorSet])

/-- The class of characters with one behaviour in sentences, by a loose name. -/
def sentenceBreakOfName? (name : String) : Option CharSet :=
  match name with
  | "cr" => some (CharSet.single 0xD)
  | "lf" => some (CharSet.single 0xA)
  | "sep" | "se" => some separatorSet
  | "extend" | "ex" => some sentenceExtendSet
  | "format" | "fo" => some sentenceFormatSet
  | "sp" =>
    some (CharSet.diff (property "whitespace") (CharSet.union separatorSet (CharSet.ofText "A D")))
  | "lower" | "lo" => some sentenceLowerSet
  | "upper" | "up" => some sentenceUpperSet
  | "oletter" | "le" => some sentenceLetterSet
  | "numeric" | "nu" => some (CharSet.union numerals (CharSet.single 0x66C))
  | "aterm" | "at" => some fullStopSet
  | "scontinue" | "sc" =>
    some (CharSet.ofText "2C-2D 3A-3B 37E 55D 60C-60D 7F8 1802 1808 2013-2014 3001 FE10-FE11
      FE13-FE14 FE31-FE32 FE50-FE51 FE54-FE55 FE58 FE63 FF0C-FF0D FF1A-FF1B FF64")
  | "sterm" | "st" => some terminatorSet
  | "close" | "cl" => some closingSet
  | _ => none

end MetricScraper.Unicode
