import TagTemplate.Unicode.Script
import TagTemplate.Unicode.Property

/-!
What characters do at the boundaries of graphemes, words and sentences, as of Unicode 16. Most
classes follow from categories and other properties; each character is in one class of a kind at
most.
-/

namespace TagTemplate.Unicode.Break

open Category Property

abbrev Classes := List (List String × CodeSet)

def carriageReturn : List String × CodeSet := (["CR"], .single 0xD)

def lineFeed : List String × CodeSet := (["LF"], .single 0xA)

def zeroWidthJoiner : List String × CodeSet := (["ZWJ"], .single 0x200D)

def flagLetters : List String × CodeSet := (["RI", "Regional_Indicator"], regionalIndicator)

def prepended : CodeSet := .ofTable [
  "600-605 6DD 70F 890-891 8E2 D4E 110BD 110CD 111C2-111C3 113D1 1193F 11941 11A3A 11A84-11A89",
  "11D46 11F02"]

def graphemeControl : CodeSet :=
  (CodeSet.unions [lineSeparator, paragraphSeparator, control, format,
    unassigned.inter defaultIgnorable]).diff
    (prepended.union (.ofTable ["A D 200C-200D E0020-E007F"]))

def apartMark : CodeSet := .ofTable [
  "102B-102C 1038 1062-1064 1067-106D 1083 1087-108C 108F 109A-109C 1A61 1A63-1A64 AA7B AA7D",
  "11720-11721"]

def graphemeMark : CodeSet :=
  ((spacingMark.diff graphemeExtend).diff apartMark).union (.ofTable ["E33 EB3"])

def openSyllable : CodeSet := .ofTable ["AC00-D788/1C"]

def grapheme : Classes := [
  carriageReturn, lineFeed, zeroWidthJoiner, flagLetters,
  (["CN", "Control"], graphemeControl),
  (["EX", "Extend"], graphemeExtend.union emojiModifier),
  (["PP", "Prepend"], prepended),
  (["SM", "SpacingMark"], graphemeMark),
  (["L"], .ofTable ["1100-115F A960-A97C"]),
  (["V"], .ofTable ["1160-11A7 D7B0-D7C6 16D63 16D67-16D6A"]),
  (["T"], .ofTable ["11A8-11FF D7CB-D7FB"]),
  (["LV"], openSyllable),
  (["LVT"], (CodeSet.range 0xAC00 0xD7A3).diff openSyllable)]

def newline : CodeSet := .ofTable ["B-C 85 2028-2029"]

def wordExtend : CodeSet :=
  (CodeSet.unions [graphemeExtend, spacingMark, emojiModifier]).diff (.single 0x200D)

def wordFormat : CodeSet :=
  ((format.diff graphemeExtend).diff prependedConcatenationMark).diff (.range 0x200B 0x200D)

def scriptChars (name : String) : CodeSet :=
  .unions ((Script.entries.filter fun e => e.names.contains name).map (·.chars))

def wordKatakana : CodeSet :=
  (scriptChars "Katakana").union (.ofTable ["3031-3035 309B-309C 30A0 30FC FF70"])

def hebrewLetter : CodeSet := (scriptChars "Hebrew").inter otherLetter

def unspaced : CodeSet := .ofTable [
  "E01-E3A E40-E4E E81-E82 E84 E86-E8A E8C-EA3 EA5 EA7-EBD EC0-EC4 EC6 EC8-ECE EDC-EDF 1000-103F",
  "1050-108F 109A-109F 1780-17D3 17D7 17DC-17DD 1950-196D 1970-1974 1980-19AB 19B0-19C9 19DA",
  "19DE-19DF 1A20-1A5E 1A60-1A7C 1AA0-1AAD A9E0-A9EF A9FA-A9FE AA60-AAC2 AADB-AADF 11700-1171A",
  "1171D-1172B 1173A-1173B 1173F-11746"]

def wordSign : CodeSet := .ofTable [
  "2C2-2C5 2D2-2D7 2DE-2DF 2E5-2EB 2ED 2EF-2FF 55A-55C 55E 58A 5F3 70F A708-A716 A720-A721",
  "A789-A78A AB5B"]

/-- The letters of words, but for Hebrew ones and those that stand in words of their own. -/
def wordLetter : CodeSet :=
  ((alphabetic.diff (CodeSet.unions [ideographic, unspaced, scriptChars "Hiragana"])).union
    wordSign).diff (CodeSet.unions [wordKatakana, wordExtend, hebrewLetter])

def word : Classes := [
  carriageReturn, lineFeed, zeroWidthJoiner, flagLetters,
  (["DQ", "Double_Quote"], .single 0x22),
  (["SQ", "Single_Quote"], .single 0x27),
  (["EX", "ExtendNumLet"], .ofTable ["5F 202F 203F-2040 2054 FE33-FE34 FE4D-FE4F FF3F"]),
  (["Extend"], wordExtend),
  (["FO", "Format"], wordFormat),
  (["HL", "Hebrew_Letter"], hebrewLetter),
  (["KA", "Katakana"], wordKatakana),
  (["LE", "ALetter"], wordLetter),
  (["MB", "MidNumLet"], .ofTable ["2E 2018-2019 2024 FE52 FF07 FF0E"]),
  (["ML", "MidLetter"], .ofTable ["3A B7 387 55F 5F4 2027 FE13 FE55 FF1A"]),
  (["MN", "MidNum"],
    .ofTable ["2C 3B 37E 589 60C-60D 66C 7F8 2044 FE10 FE14 FE50 FE54 FF0C FF1B"]),
  (["NL", "Newline"], newline),
  (["NU", "Numeric"], (CodeSet.unions [decimalNumber, .single 0x66B,
    prependedConcatenationMark]).diff (.single 0x70F)),
  (["WSegSpace"], .ofTable ["20 1680 2000-2006 2008-200A 205F 3000"])]

def fullStop : CodeSet := .ofTable ["2E 2024 FE52 FF0E"]

def sentenceEnd : CodeSet := sentenceTerminal.diff fullStop

def closing : CodeSet :=
  ((CodeSet.unions [openPunctuation, closePunctuation, initialPunctuation, finalPunctuation,
    quotationMark, .ofTable ["275B-2760 2E00-2E01 2E06-2E08 2E0B 1F676-1F678"]]).diff
    (.ofTable ["5F3 FF02 FF07"])).diff (fullStop.union sentenceEnd)

def sentenceExtend : CodeSet := graphemeExtend.union (spacingMark.union (.single 0x200D))

def georgian : CodeSet := .ofTable ["10D0-10FA 10FD-10FF"]

/-- Georgian letters have no case in a sentence. -/
def sentenceLower : CodeSet := (lowercase.diff graphemeExtend).diff georgian

def sentenceUpper : CodeSet :=
  (titlecaseLetter.union uppercase).diff (.ofTable ["1C90-1CBA 1CBD-1CBF"])

def sentenceLetter : CodeSet :=
  ((alphabetic.union (.single 0x5F3)).diff
    (CodeSet.unions [sentenceLower, sentenceUpper, sentenceExtend])).union georgian

def continuing : CodeSet := .ofTable [
  "2C-2D 3A 55D 60C-60D 7F8 1802 1808 2013-2014 3001 FE10-FE11 FE13 FE31-FE32 FE50-FE51 FE55",
  "FE58 FE63 FF0C-FF0D FF1A FF64"]

def sentence : Classes := [
  carriageReturn, lineFeed,
  (["AT", "ATerm"], fullStop),
  (["CL", "Close"], closing),
  (["EX", "Extend"], sentenceExtend),
  (["FO", "Format"], (format.diff graphemeExtend).diff (.range 0x200C 0x200D)),
  (["LE", "OLetter"], sentenceLetter),
  (["LO", "Lower"], sentenceLower),
  (["NU", "Numeric"], decimalNumber.union (.ofTable ["66B-66C"])),
  (["SC", "SContinue"], continuing),
  (["SE", "Sep"], .ofTable ["85 2028-2029"]),
  (["SP", "Sp"], whiteSpace.diff (.ofTable ["A D 85 2028-2029"])),
  (["ST", "STerm"], sentenceEnd),
  (["UP", "Upper"], sentenceUpper)]

end TagTemplate.Unicode.Break
