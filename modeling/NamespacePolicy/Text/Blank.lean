import NamespacePolicy.Unicode.CharClass

/-! Blank characters and texts without blanks at their ends. -/

namespace NamespacePolicy.Text

/-- Every character that counts as white space: the controls from tab to carriage return, the
space, and the separators and spaces of other alphabets. -/
def blank : Unicode.CharClass := .ranges [
  ⟨0x9, 0xD, 1⟩, ⟨0x20, 0x20, 1⟩, ⟨0x85, 0x85, 1⟩, ⟨0xA0, 0xA0, 1⟩, ⟨0x1680, 0x1680, 1⟩,
  ⟨0x2000, 0x200A, 1⟩, ⟨0x2028, 0x2029, 1⟩, ⟨0x202F, 0x202F, 1⟩, ⟨0x205F, 0x205F, 1⟩,
  ⟨0x3000, 0x3000, 1⟩]

def isBlank (c : Char) : Bool := blank.has c

/-- The text without the blanks at its beginning and its end. -/
def trimChars (text : List Char) : List Char :=
  ((text.dropWhile isBlank).reverse.dropWhile isBlank).reverse

def trim (text : String) : String := String.ofList (trimChars text.toList)

end NamespacePolicy.Text
