import MetricScraper.Unicode.Category
import MetricScraper.Unicode.Property

/-!
# Character classes

The classes that texts and patterns ask for by nature rather than by name: digits, word
characters, white space, and what may be shown as it is in a quoted text.

Patterns know the characters of version 16 of Unicode.  What a text shows as it is, and what a
name may be made of, follows version 17; the characters that it added are listed here.
-/

namespace MetricScraper.Unicode

/-! ### Classes of patterns -/

/-- Decimal digits of any script. -/
def digitSet : CharSet := category "Nd"

/-- White space, as in `Text.isBlank`. -/
def blankSet : CharSet := property "whitespace"

/-- Word characters: letters, marks, digits, connecting punctuation and joining controls. -/
def wordSet : CharSet :=
  CharSet.unions [property "alphabetic", categories ["Mn", "Mc", "Me"], category "Nd",
    category "Pc", property "joincontrol"]

/-! ### Classes of texts -/

/-- The characters that version 17 added. -/
def addedSet : CharSet :=
  CharSet.ofText
    "88F C5C CDC 1ACF-1ADD 1AE0-1AEB 20C1 2B96 A7CE-A7CF A7D2 A7D4 A7F1 FBC3-FBD2 FD90-FD91
     FDC8-FDCE 10940-10959 10EC5-10EC7 10ED0-10ED8 10EFA-10EFB 11B60-11B67 11DB0-11DDB
     11DE0-11DE9 16EA0-16EB8 16EBB-16ED3 16FF2-16FF6 187F8-187FF 18D09-18D1E 18D80-18DF2
     1CCFA-1CCFC 1CEBA-1CED0 1CEE0-1CEF0 1E6C0-1E6DE 1E6E0-1E6F5 1E6FE-1E6FF 1F6D8 1F777-1F77A
     1F8D0-1F8D8 1FA54-1FA57 1FA8A 1FA8E 1FAC8 1FACD 1FAEA 1FAEF 1FBFA 2B73A-2B73F 2CEA2-2CEAD
     323B0-33479"

/-- The alphabetic characters that version 17 added. -/
def addedAlphabeticSet : CharSet :=
  CharSet.ofText
    "88F C5C CDC A7CE-A7CF A7D2 A7D4 A7F1 10940-10959 10EC5-10EC7 10EFA-10EFB 11B60-11B67
     11DB0-11DDB 16EA0-16EB8 16EBB-16ED3 16FF2-16FF6 187F8-187FF 18D09-18D1E 18D80-18DF2
     1E6C0-1E6DE 1E6E0-1E6F5 1E6FE-1E6FF 2B73A-2B73F 2CEA2-2CEAD 323B0-33479"

/-- Alphabetic characters. -/
def alphabeticSet : CharSet := CharSet.union (property "alphabetic") addedAlphabeticSet

/-- Alphabetic characters and numbers of every kind. -/
def alphanumericSet : CharSet :=
  CharSet.unions [alphabeticSet, categories ["Nd", "Nl", "No"],
    CharSet.ofText "11DE0-11DE9 16FF4-16FF6"]

/-- Characters that extend the one before them, such as combining accents; the voicing marks of
narrow Katakana take a place of their own. -/
def extendingSet : CharSet :=
  CharSet.diff
    (CharSet.union (property "graphemeextend")
      (CharSet.ofText
        "1ACF-1ADD 1AE0-1AEB 10EFA-10EFB 11B60 11B62-11B64 11B66 1E6E3 1E6E6 1E6EE-1E6EF 1E6F5"))
    (CharSet.ofText "FF9E-FF9F")

/-- Letters of Hangul that fill a place without showing anything. -/
def fillerSet : CharSet := CharSet.ofText "115F-1160 3164 FFA0"

/-- Characters without a printed form of their own: controls, formats, unassigned and private
ones, fillers, and every separator but the space. -/
def unprintableSet : CharSet :=
  CharSet.diff
    (CharSet.union (categories ["Cc", "Cf", "Co", "Cn", "Zs", "Zl", "Zp"]) fillerSet)
    (CharSet.union addedSet (CharSet.single 0x20))

end MetricScraper.Unicode
