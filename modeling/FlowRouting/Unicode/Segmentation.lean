import FlowRouting.Unicode.Property
import FlowRouting.Unicode.Script

/-!
# Text segmentation

The standard divides a text into what a reader takes for characters, into words and into sentences.
For each of the three divisions every character has a class, which tells where the text may break
beside it. The classes are built from categories, scripts and binary properties, with the
exceptions that the standard lists.
-/

namespace FlowRouting.Unicode

private def ofKind (categories : List Category) : CharSet :=
  .ofCategories categories

private def ofProperty (name : String) : CharSet :=
  (property? name).getD .empty

private def ofScript (name : String) : CharSet :=
  ((script? name).map Script.chars).getD .empty

/-- The characters of a table. -/
private def listed (table : String) : CharSet :=
  .ofTable table

/-- The pairs of these letters stand for flags. -/
private def regionalIndicators : CharSet :=
  listed "1f1e6-1f1ff"

/-! ## Characters of a reader -/

/-- The syllables of Hangul, in which every 28th has no final consonant. -/
private def hangulSyllables (isOpen : Bool) : CharSet :=
  .ofSorted (((List.range 11172).filter fun i ↦ (i % 28 == 0) == isOpen).map (0xac00 + ·))

/-- The marks that take up room of their own, but do not begin a new character. -/
private def spacingMarks : CharSet :=
  (((ofKind [.spacingMark]).diff graphemeExtend).union (listed "e33 eb3")).diff
    (listed "102b-102c 1038 1062-1064 1067-106d 1083 1087-108c 108f 109a-109c 1a61 1a63-1a64 aa7b
      aa7d 11720-11721")

/-- The characters that do not show up. -/
private def controls : CharSet :=
  ((ofKind [.control, .format, .lineSeparator, .paragraphSeparator]).union
    ((ofProperty "defaultignorablecodepoint").inter (ofKind [.unassigned]))).diff
    (listed "a d 600-605 6dd 70f 890-891 8e2 200c-200d 110bd 110cd e0020-e007f")

/-- The characters with the class of a name in the division into characters of a reader. -/
def graphemeBreak? : String → Option CharSet
  | "cr" => some (listed "d")
  | "lf" => some (listed "a")
  | "cn" | "control" => some controls
  | "ex" | "extend" => some (graphemeExtend.union (ofProperty "emojimodifier"))
  | "l" => some (listed "1100-115f a960-a97c")
  | "v" => some (listed "1160-11a7 d7b0-d7c6 16d63 16d67-16d6a")
  | "t" => some (listed "11a8-11ff d7cb-d7fb")
  | "lv" => some (hangulSyllables true)
  | "lvt" => some (hangulSyllables false)
  | "pp" | "prepend" =>
    some ((ofProperty "prependedconcatenationmark").union
      (listed "d4e 111c2-111c3 113d1 1193f 11941 11a3a 11a84-11a89 11d46 11f02"))
  | "ri" | "regionalindicator" => some regionalIndicators
  | "sm" | "spacingmark" => some spacingMarks
  | "zwj" => some (listed "200d")
  | _ => none

/-! ## Words -/

/-- The marks that belong to the character before them within a word. -/
private def wordMarks : CharSet :=
  (graphemeExtend.union (ofKind [.spacingMark])).union (ofProperty "emojimodifier")

/-- The digits, and the marks written over digits. -/
private def wordDigits : CharSet :=
  (ofKind [.decimalNumber]).union (listed "600-605 66b 6dd 890-891 8e2 19da 110bd 110cd")

private def wordKatakana : CharSet :=
  (ofScript "katakana").union (listed "3031-3035 309b-309c 30a0 30fc ff70")

private def hebrewLetters : CharSet :=
  (ofScript "hebrew").inter (ofKind [.otherLetter])

/-- The format characters that may stand within a word. -/
private def wordFormat : CharSet :=
  ((ofKind [.format]).diff (ofProperty "prependedconcatenationmark")).diff
    (listed "200b-200d e0020-e007f")

/-- The letters of scripts that put blanks between words. -/
private def wordLetters : CharSet :=
  let letters := [ofProperty "ideographic", wordKatakana, hebrewLetters, ofScript "hiragana",
    wordMarks].foldl CharSet.diff alphabetic
  (letters.union
    (listed "2c2-2c5 2d2-2d7 2de-2df 2e5-2eb 2ed 2ef-2ff 55a-55c 55e 58a 5f3 70f a708-a716
      a720-a721 a789-a78a ab5b")).diff
    (listed "e01-e30 e32-e33 e40-e46 e81-e82 e84 e86-e8a e8c-ea3 ea5 ea7-eb0 eb2-eb3 ebd ec0-ec4
      ec6 edc-edf 1000-102a 103f 1050-1055 105a-105d 1061 1065-1066 106e-1070 1075-1081 108e
      1780-17b3 17d7 17dc 1950-196d 1970-1974 1980-19ab 19b0-19c9 1a20-1a54 1aa7 a9e0-a9e4
      a9e6-a9ef a9fa-a9fe aa60-aa76 aa7a aa7e-aaaf aab1 aab5-aab6 aab9-aabd aac0 aac2 aadb-aadd
      11700-1171a 11740-11746")

/-- The characters with the class of a name in the division into words. -/
def wordBreak? : String → Option CharSet
  | "cr" => some (listed "d")
  | "lf" => some (listed "a")
  | "nl" | "newline" => some (listed "b-c 85 2028-2029")
  | "extend" => some wordMarks
  | "zwj" => some (listed "200d")
  | "fo" | "format" => some wordFormat
  | "ka" | "katakana" => some wordKatakana
  | "hl" | "hebrewletter" => some hebrewLetters
  | "le" | "aletter" => some wordLetters
  | "sq" | "singlequote" => some (listed "27")
  | "dq" | "doublequote" => some (listed "22")
  | "mb" | "midnumlet" => some (listed "2e 2018-2019 2024 fe52 ff07 ff0e")
  | "ml" | "midletter" => some (listed "3a b7 387 55f 5f4 2027 fe13 fe55 ff1a")
  | "mn" | "midnum" => some (listed "2c 3b 37e 589 60c-60d 66c 7f8 2044 fe50 fe54 ff0c ff1b")
  | "nu" | "numeric" => some wordDigits
  | "ex" | "extendnumlet" => some (listed "5f 202f 203f-2040 2054 fe33-fe34 fe4d-fe4f ff3f")
  | "ri" | "regionalindicator" => some regionalIndicators
  | "wsegspace" => some (listed "20 1680 2000-2006 2008-200a 205f 3000")
  | _ => none

/-! ## Sentences -/

/-- The marks that belong to the character before them within a sentence. -/
private def sentenceMarks : CharSet :=
  (graphemeExtend.union (ofKind [.spacingMark])).union (listed "200d")

/-- The letters that cannot begin a sentence. -/
private def sentenceLower : CharSet :=
  ((ofProperty "lowercase").diff graphemeExtend).diff (listed "10d0-10fa 10fd-10ff")

/-- The letters that may begin a sentence. -/
private def sentenceUpper : CharSet :=
  ((ofProperty "uppercase").union (ofKind [.titlecaseLetter])).diff (listed "1c90-1cba 1cbd-1cbf")

/-- The full stops, which also stand within sentences. -/
private def fullStops : CharSet :=
  listed "2e 2024 fe52 ff0e"

/-- The format characters that may stand within a sentence. -/
private def sentenceFormat : CharSet :=
  (((ofKind [.format]).diff (ofProperty "prependedconcatenationmark")).diff
    (listed "200c-200d e0020-e007f")).union (listed "70f")

/-- The brackets and quotation marks. -/
private def sentenceClose : CharSet :=
  (ofKind [.openPunctuation, .closePunctuation, .initialPunctuation, .finalPunctuation]).union
    (listed "22 27 275b-2760 2e00-2e01 2e06-2e08 2e0b 1f676-1f678")

/-- The characters with the class of a name in the division into sentences. -/
def sentenceBreak? : String → Option CharSet
  | "cr" => some (listed "d")
  | "lf" => some (listed "a")
  | "se" | "sep" => some (listed "85 2028-2029")
  | "sp" => some ((ofProperty "whitespace").diff (listed "a d 85 2028-2029"))
  | "ex" | "extend" => some sentenceMarks
  | "fo" | "format" => some sentenceFormat
  | "lo" | "lower" => some sentenceLower
  | "up" | "upper" => some sentenceUpper
  | "le" | "oletter" =>
    some ((((alphabetic.diff sentenceLower).diff sentenceUpper).diff sentenceMarks).union
      (listed "5f3"))
  | "nu" | "numeric" => some (wordDigits.union (listed "66c"))
  | "at" | "aterm" => some fullStops
  | "st" | "sterm" => some ((ofProperty "sentenceterminal").diff fullStops)
  | "cl" | "close" => some sentenceClose
  | "sc" | "scontinue" =>
    some (listed "2c-2d 3a-3b 37e 55d 60c-60d 7f8 1802 1808 2013-2014 3001 fe10-fe11 fe13-fe14
      fe31-fe32 fe50-fe51 fe54-fe55 fe58 fe63 ff0c-ff0d ff1a-ff1b ff64")
  | _ => none

end FlowRouting.Unicode
