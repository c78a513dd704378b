import NamespacePolicy.Unicode.Recent

/-!
Texts between double quotes, with an escape for every character that could not be seen or told
apart otherwise.
-/

namespace NamespacePolicy.Text

/-- Characters that leave a mark of their own, and the space.  The two sound marks of narrow
Katakana have a width of their own though they extend the letter before them. -/
def printable : Unicode.CharClass :=
  .union (.single ' ')
    (.diff Unicode.Recent.assigned
      (.join [Unicode.categoriesStarting 'z', Unicode.category "cc", Unicode.category "cf",
        Unicode.category "co", Unicode.defaultIgnorable,
        .diff Unicode.Recent.graphemeExtend (.interval 0xFF9E 0xFF9F)]))

def escapedCode (c : Char) : List Char :=
  "\\u\x7b".toList ++ Nat.toDigits 16 c.toNat ++ ['\x7d']

def quotedChar (c : Char) : List Char :=
  match c with
  | '\x00' => "\\0".toList
  | '\t' => "\\t".toList
  | '\r' => "\\r".toList
  | '\n' => "\\n".toList
  | '\\' => "\\\\".toList
  | '"' => "\\\"".toList
  | c =>
      if c.toNat < 0x7F ∧ 0x20 ≤ c.toNat then [c]
      else if printable.has c then [c]
      else escapedCode c

def quoted (text : String) : String :=
  String.ofList ('"' :: text.toList.flatMap quotedChar ++ ['"'])

end NamespacePolicy.Text
