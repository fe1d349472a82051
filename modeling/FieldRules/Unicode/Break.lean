import FieldRules.Unicode.Property
import FieldRules.Unicode.Script

/-!
# Boundaries in text

What a character is for the boundaries between grapheme clusters, words and sentences. The values of
the three properties are derived from other properties, and no character has two values of one; a
character that has none of the values below is no part of any rule.
-/

namespace FieldRules.Unicode

def scriptSet (name : String) : CharSet :=
  match scripts.find? fun p => p.1.head? = some name with
  | some p => .ofText p.2
  | none => .empty

def single (code : Nat) : CharSet := .range code code

def lineFeed : CharSet := single 0x0A
def carriageReturn : CharSet := single 0x0D
def nonJoiner : CharSet := single 0x200C
def joiner : CharSet := single 0x200D

def regionalIndicators : CharSet := listedSet "Regional_Indicator"

def numberSigns : CharSet := listedSet "Prepended_Concatenation_Mark"

/-- Marks that take part in the character before, as grapheme clusters see it. -/
def clusterExtend : CharSet :=
  (graphemeExtend.union (listedSet "Emoji_Modifier")).diff joiner

/-- Letters of Indic scripts that are written before the consonant they belong to. -/
def prefixedLetters : CharSet :=
  .ofText "D4E 111C2-111C3 113D1 1193F 11941 11A3A 11A84-11A89 11D46 11F02"

/-- Spacing marks that begin a cluster of their own. -/
def separateMarks : CharSet :=
  .ofText
    "102B-102C 1038 1062-1064 1067-106D 1083 1087-108C 108F 109A-109C 1A61 1A63-1A64 AA7B AA7D
     11720-11721"

def clusterControls : CharSet :=
  CharSet.diff
    (.unionAll [inAny [.Zl, .Zp, .Cc, .Cf], unassigned.inter defaultIgnorable])
    (.unionAll [lineFeed, carriageReturn, nonJoiner, joiner, numberSigns, clusterExtend])

def hangulSyllables : CharSet := .range 0xAC00 0xD7A3

/-- Hangul syllables without a final consonant: every twenty-eighth one. -/
def openSyllables : CharSet :=
  .normalize ((List.range 399).map fun i => (0xAC00 + 28 * i, 0xAC00 + 28 * i))

def graphemeBreaks : List (List String × (Unit → CharSet)) :=
  [ (["CR"], fun _ => carriageReturn),
    (["LF"], fun _ => lineFeed),
    (["Control", "CN"], fun _ => clusterControls),
    (["Extend", "EX"], fun _ => clusterExtend),
    (["ZWJ"], fun _ => joiner),
    (["Prepend", "PP"], fun _ => prefixedLetters.union numberSigns),
    (["SpacingMark", "SM"], fun _ =>
      CharSet.union (CharSet.diff (Category.set .Mc) (clusterExtend.union separateMarks))
        (.ofText "E33 EB3")),
    (["Regional_Indicator", "RI"], fun _ => regionalIndicators),
    (["L"], fun _ => .ofText "1100-115F A960-A97C"),
    (["V"], fun _ => .ofText "1160-11A7 D7B0-D7C6 16D63 16D67-16D6A"),
    (["T"], fun _ => .ofText "11A8-11FF D7CB-D7FB"),
    (["LV"], fun _ => openSyllables),
    (["LVT"], fun _ => hangulSyllables.diff openSyllables) ]

def wordExtend : CharSet := CharSet.union (Category.set .Mc) clusterExtend

/-- Decimal digits, the decimal and the thousands separator of Arabic, and number signs. -/
def numerals : CharSet :=
  .unionAll [Category.set .Nd, .range 0x66B 0x66C, numberSigns.diff abbreviationMark]
where
  abbreviationMark : CharSet := single 0x70F

def katakana : CharSet :=
  (scriptSet "Katakana").union (.ofText "3031-3035 309B-309C 30A0 30FC FF70")

def hebrewLetters : CharSet := (scriptSet "Hebrew").inter (Category.set .Lo)

/-- Characters of the scripts of South East Asia that are written without blanks between words. -/
def unspacedScripts : CharSet :=
  .ofText
    "E01-E3A E40-E4E E81-E82 E84 E86-E8A E8C-EA3 EA5 EA7-EBD EC0-EC4 EC6 EC8-ECE EDC-EDF
     1000-103F 1050-108F 109A-109F 1780-17D3 17D7 17DC-17DD 1950-196D 1970-1974 1980-19AB
     19B0-19C9 19DA 19DE-19DF 1A20-1A5E 1A60-1A7C 1AA0-1AAD A9E0-A9EF A9FA-A9FE AA60-AAC2
     AADB-AADF 11700-1171A 1171D-1172B 1173A-1173B 1173F-11746"

def letterSigns : CharSet :=
  .ofText
    "2C2-2C5 2D2-2D7 2DE 2DF 2E5-2EB 2ED 2EF-2FF 55A-55C 55E 58A 5F3 70F A708-A716 A720-A721
     A789-A78A AB5B"

def wordLetters : CharSet :=
  CharSet.diff (alphabetic.union letterSigns)
    (.unionAll [listedSet "Ideographic", katakana, hebrewLetters, unspacedScripts,
      scriptSet "Hiragana", wordExtend])

def wordBreaks : List (List String × (Unit → CharSet)) :=
  [ (["CR"], fun _ => carriageReturn),
    (["LF"], fun _ => lineFeed),
    (["Newline", "NL"], fun _ => .ofText "B-C 85 2028-2029"),
    (["Extend"], fun _ => wordExtend),
    (["ZWJ"], fun _ => joiner),
    (["Regional_Indicator", "RI"], fun _ => regionalIndicators),
    (["Format", "FO"], fun _ =>
      CharSet.diff (Category.set .Cf)
        (.unionAll [.range 0x200B 0x200D, numberSigns, wordExtend])),
    (["Katakana", "KA"], fun _ => katakana),
    (["Hebrew_Letter", "HL"], fun _ => hebrewLetters),
    (["ALetter", "LE"], fun _ => wordLetters),
    (["Single_Quote", "SQ"], fun _ => single 0x27),
    (["Double_Quote", "DQ"], fun _ => single 0x22),
    (["MidNumLet", "MB"], fun _ => .ofText "2E 2018-2019 2024 FE52 FF07 FF0E"),
    (["MidLetter", "ML"], fun _ => .ofText "3A B7 387 55F 5F4 2027 FE13 FE55 FF1A"),
    (["MidNum", "MN"], fun _ =>
      .ofText
        "2C 3B 37E 589 60C-60D 66C 7F8 2044 FE10 FE14 FE50 FE54 FF0C FF1B"),
    (["Numeric", "NU"], fun _ => numerals.diff (single 0x66C)),
    (["ExtendNumLet", "EX"], fun _ => CharSet.union (Category.set .Pc) (single 0x202F)),
    (["WSegSpace"], fun _ => .ofText "20 1680 2000-2006 2008-200A 205F 3000") ]

def sentenceExtend : CharSet :=
  .unionAll [graphemeExtend, Category.set .Mc, joiner]

def fullStops : CharSet := .ofText "2E 2024 FE52 FF0E"

def sentenceLower : CharSet :=
  lowercase.diff (graphemeExtend.union (.ofText "10D0-10FA 10FD-10FF"))

def sentenceUpper : CharSet :=
  CharSet.union (Category.set .Lt) (uppercase.diff (.ofText "1C90-1CBA 1CBD-1CBF"))

def sentenceTerminals : CharSet := (listedSet "Sentence_Terminal").diff fullStops

/-- Quotation marks that are neither opening nor closing ones. -/
def neutralQuotes : CharSet := .ofText "22 27 275B-2760 2E00-2E01 2E06-2E08 2E0B 1F676-1F678"

def sentenceBreaks : List (List String × (Unit → CharSet)) :=
  [ (["CR"], fun _ => carriageReturn),
    (["LF"], fun _ => lineFeed),
    (["Sep", "SE"], fun _ => .ofText "85 2028-2029"),
    (["Extend", "EX"], fun _ => sentenceExtend),
    (["Format", "FO"], fun _ =>
      CharSet.diff (Category.set .Cf) (.unionAll [nonJoiner, joiner, numerals, sentenceExtend])),
    (["Sp"], fun _ => (listedSet "White_Space").diff (.ofText "A D 85 2028-2029")),
    (["Lower", "LO"], fun _ => sentenceLower),
    (["Upper", "UP"], fun _ => sentenceUpper),
    (["OLetter", "LE"], fun _ =>
      CharSet.diff (alphabetic.union (single 0x5F3))
        (.unionAll [sentenceLower, sentenceUpper, sentenceExtend])),
    (["Numeric", "NU"], fun _ => numerals),
    (["ATerm", "AT"], fun _ => fullStops),
    (["STerm", "ST"], fun _ => sentenceTerminals),
    (["SContinue", "SC"], fun _ =>
      .ofText
        "2C-2D 3A-3B 37E 55D 60C-60D 7F8 1802 1808 2013-2014 3001 FE10-FE11 FE13-FE14 FE31-FE32
         FE50-FE51 FE54-FE55 FE58 FE63 FF0C-FF0D FF1A-FF1B FF64"),
    (["Close", "CL"], fun _ =>
      CharSet.diff (.unionAll [inAny [.Ps, .Pe, .Pi, .Pf], neutralQuotes])
        (.unionAll [single 0x5F3, fullStops, sentenceTerminals])) ]

end FieldRules.Unicode
