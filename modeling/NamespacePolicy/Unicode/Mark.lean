import NamespacePolicy.Unicode.GeneralCategory
import NamespacePolicy.Text.Blank

/-!
Marks, controls, and other characters that act on the characters beside them or are not seen.
-/

namespace NamespacePolicy.Unicode

/-- Characters that extend the one before them though they are not marks without width. -/
def otherGraphemeExtend : CharClass := .ofTable
  "9BE 9D7 B3E B57 BBE BD7 CC0 CC2 CC7-CC8 CCA-CCB CD5-CD6 D3E D57 DCF DDF 1715 1734 1B35 1B3B
   1B3D 1B43-1B44 1BAA 1BF2-1BF3 200C 302E-302F A953 A9C0 FF9E-FF9F 111C0 11235 1133E 1134D
   11357 113B8 113C2 113C5 113C7-113C9 113CF 114B0 114BD 115AF 116B6 11930 1193D 11F41
   16FF0-16FF1 1D165-1D166 1D16D-1D172 E0020-E007F"

/-- Characters that never stand alone but extend the one before them. -/
def graphemeExtend : CharClass := .join [category "mn", category "me", otherGraphemeExtend]

def graphemeBase : CharClass :=
  .diff assigned (.join [category "cc", category "cf", category "co", category "zl",
    category "zp", graphemeExtend])

def variationSelector : CharClass := .ofTable "180B-180D 180F FE00-FE0F E0100-E01EF"

/-- Signs that enclose the digits after them. -/
def prependedConcatenationMark : CharClass := .ofTable "600-605 6DD 70F 890-891 8E2 110BD 110CD"

def otherDefaultIgnorable : CharClass := .ofTable
  "34F 115F-1160 17B4-17B5 2065 3164 FFA0 FFF0-FFF8 E0000 E0002-E001F E0080-E00FF E01F0-E0FFF"

/-- Characters that leave no trace where nothing is known of them. -/
def defaultIgnorable : CharClass :=
  .diff (.join [otherDefaultIgnorable, category "cf", variationSelector])
    (.join [Text.blank, .ofTable "FFF9-FFFB 13430-13440", prependedConcatenationMark])

/-- Characters that do not end a word where the case of its letters is changed. -/
def caseIgnorable : CharClass :=
  .join [category "mn", category "me", category "cf", category "lm", category "sk", .ofTable
    "27 2E 3A B7 387 55F 5F4 2018-2019 2024 2027 FE13 FE52 FE55 FF07 FF0E FF1A"]

/-- The pairs of letters that stand for the flags of regions. -/
def regionalIndicator : CharClass := .interval 0x1F1E6 0x1F1FF

/-- The shades that another picture is shown in. -/
def emojiModifier : CharClass := .interval 0x1F3FB 0x1F3FF

end NamespacePolicy.Unicode
