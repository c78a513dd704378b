import NamespacePolicy.Unicode.Property
import NamespacePolicy.Unicode.Script

/-!
The part that each character plays where a text is cut: between characters as they are seen, between
words, and between sentences.
-/

namespace NamespacePolicy.Unicode

/-- A part, and the characters that play it. -/
abbrev BreakClass := List String × CharClass

def script (code : String) : CharClass := (scriptNamed code).getD .empty

/-- Number signs, which belong to the digits after them. -/
def numberSign : CharClass := .ofTable "600-605 6DD 890-891 8E2 110BD 110CD"

def graphemeClasses : List BreakClass := [
  (["cn", "control"],
    .diff
      (.join [category "cc", category "cf", category "zl", category "zp",
        .diff defaultIgnorable assigned])
      (.join [.ofTable "A D 200D", prependedConcatenationMark, graphemeExtend])),
  (["cr"], .single '\r'),
  (["ex", "extend"], .union graphemeExtend emojiModifier),
  (["l"], .ofTable "1100-115F A960-A97C"),
  (["lf"], .single '\n'),
  (["lv"], .ofTable "AC00-D788/1C"),
  (["lvt"], .diff (.interval 0xAC00 0xD7A3) (.ofTable "AC00-D788/1C")),
  (["pp", "prepend"], .union prependedConcatenationMark (.ofTable
    "D4E 111C2-111C3 113D1 1193F 11941 11A3A 11A84-11A89 11D46 11F02")),
  (["ri", "regionalindicator"], regionalIndicator),
  (["sm", "spacingmark"],
    .union (.ofTable "E33 EB3")
      (.diff (category "mc") (.union graphemeExtend (.ofTable
        "102B-102C 1038 1062-1064 1067-106D 1083 1087-108C 108F 109A-109C 1A61 1A63-1A64 AA7B
         AA7D 11720-11721")))),
  (["t"], .ofTable "11A8-11FF D7CB-D7FB"),
  (["v"], .ofTable "1160-11A7 D7B0-D7C6 16D63 16D67-16D6A"),
  (["zwj"], .interval 0x200D 0x200D)]

/-- Characters that extend the word they stand in. -/
def wordExtend : CharClass := .join [graphemeExtend, category "mc", emojiModifier]

def hebrewLetter : CharClass := .inter (script "hebr") (category "lo")

def katakana : CharClass :=
  .union (script "kana") (.ofTable "3031-3035 309B-309C 30A0 30FC FF70")

/-- Scripts that do not mark where their words end. -/
def unspacedScripts : CharClass :=
  .join (["thai", "laoo", "mymr", "khmr", "tale", "talu", "lana", "tavt", "ahom"].map script)

def wordClasses : List BreakClass := [
  (["cr"], .single '\r'),
  (["dq", "doublequote"], .single '"'),
  (["ex", "extendnumlet"], .union (category "pc") (.interval 0x202F 0x202F)),
  (["extend"], wordExtend),
  (["fo", "format"], .diff (category "cf") (.join [graphemeExtend, numberSign, .ofTable
    "70F 200B-200D"])),
  (["hl", "hebrewletter"], hebrewLetter),
  (["ka", "katakana"], katakana),
  (["le", "aletter"],
    .union
      (.diff alphabetic (.join [ideographic, katakana, hebrewLetter, wordExtend, unspacedScripts,
        script "hira"]))
      (.ofTable
        "2C2-2C5 2D2-2D7 2DE-2DF 2E5-2EB 2ED 2EF-2FF 55A-55C 55E 58A 5F3 70F A708-A716 A720-A721
         A789-A78A AB5B")),
  (["lf"], .single '\n'),
  (["mb", "midnumlet"], .ofTable "2E 2018-2019 2024 FE52 FF07 FF0E"),
  (["ml", "midletter"], .ofTable "3A B7 387 55F 5F4 2027 FE13 FE55 FF1A"),
  (["mn", "midnum"], .ofTable
    "2C 3B 37E 589 60C-60D 66C 7F8 2044 FE10 FE14 FE50 FE54 FF0C FF1B"),
  (["nl", "newline"], .ofTable "B-C 85 2028-2029"),
  (["nu", "numeric"], .join [decimalDigit, numberSign, .ofTable "66B 19DA"]),
  (["ri", "regionalindicator"], regionalIndicator),
  (["sq", "singlequote"], .single '\''),
  (["wsegspace"], .diff (category "zs") (.ofTable "A0 2007 202F")),
  (["zwj"], .interval 0x200D 0x200D)]

/-- Characters that extend the sentence they stand in. -/
def sentenceExtend : CharClass :=
  .join [graphemeExtend, category "mc", .interval 0x200D 0x200D]

/-- Full stops that may also end an abbreviation. -/
def ambiguousTerminal : CharClass := .ofTable "2E 2024 FE52 FF0E"

/-- The small and the capital letters of sentences; Georgian has a capital form of whole words
only. -/
def sentenceLower : CharClass :=
  .diff lowercase (.union graphemeExtend (.ofTable "10D0-10FA 10FD-10FF"))

def sentenceUpper : CharClass :=
  .diff (.union uppercase (category "lt")) (.ofTable "1C90-1CBA 1CBD-1CBF")

def sentenceClasses : List BreakClass := [
  (["at", "aterm"], ambiguousTerminal),
  (["cl", "close"], .join [category "pe", category "pf", category "pi", category "ps", .ofTable
    "22 27 275B-2760 2E00-2E0D 1F676-1F678"]),
  (["cr"], .single '\r'),
  (["ex", "extend"], sentenceExtend),
  (["fo", "format"],
    .diff (category "cf") (.join [graphemeExtend, numberSign, .interval 0x200D 0x200D])),
  (["le", "oletter"],
    .diff (.union alphabetic (.interval 0x5F3 0x5F3))
      (.join [sentenceLower, sentenceUpper, sentenceExtend])),
  (["lf"], .single '\n'),
  (["lo", "lower"], sentenceLower),
  (["nu", "numeric"], .join [decimalDigit, numberSign, .ofTable "66B-66C 19DA"]),
  (["sc", "scontinue"], .ofTable
    "2C-2D 3A-3B 37E 55D 60C-60D 7F8 1802 1808 2013-2014 3001 FE10-FE11 FE13-FE14 FE31-FE32
     FE50-FE51 FE54-FE55 FE58 FE63 FF0C-FF0D FF1A-FF1B FF64"),
  (["se", "sep"], .ofTable "85 2028-2029"),
  (["sp"], .diff Text.blank (.ofTable "A D 85 2028-2029")),
  (["st", "sterm"], .diff sentenceTerminal ambiguousTerminal),
  (["up", "upper"], sentenceUpper)]

def breakClassNamed (name : String) (classes : List BreakClass) : Option CharClass :=
  (classes.find? (·.1.contains name)).map (·.2)

end NamespacePolicy.Unicode
