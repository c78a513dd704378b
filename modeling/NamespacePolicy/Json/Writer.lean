import NamespacePolicy.Json.Basic

/-! JSON texts of values: on one line, or indented by two spaces for each level. -/

namespace NamespacePolicy.Json

def controlDigits (c : Char) : List Char :=
  let digits := Nat.toDigits 16 c.toNat
  List.replicate (2 - digits.length) '0' ++ digits

def escaped (c : Char) : List Char :=
  match c with
  | '"' => "\\\"".toList
  | '\\' => "\\\\".toList
  | '\x08' => "\\b".toList
  | '\x0c' => "\\f".toList
  | '\n' => "\\n".toList
  | '\r' => "\\r".toList
  | '\t' => "\\t".toList
  | c => if c.toNat < 0x20 then "\\u00".toList ++ controlDigits c else [c]

def writtenString (text : List Char) : List Char := '"' :: text.flatMap escaped ++ ['"']

/-- Lays out the values between two brackets. -/
structure Layout where
  /-- What stands before each item of the given depth. -/
  lineBreak : Nat → List Char
  colon : List Char

def Layout.compact : Layout := ⟨fun _ => [], [':']⟩

def Layout.pretty : Layout :=
  ⟨fun depth => '\n' :: List.replicate (2 * depth) ' ', [':', ' ']⟩

mutual

/-- The text of a value that stands at a depth.  Only values that a text can spell are written
as such. -/
def written (layout : Layout) (depth : Nat) : Json → List Char
  | null => "null".toList
  | boolean value => if value then "true".toList else "false".toList
  | number (.natural value) => Nat.toDigits 10 value
  | number (.negative value) => '-' :: Nat.toDigits 10 value
  | number (.floating _) => []
  | number .tooLarge => []
  | string text => writtenString ((text.map String.toList).getD [])
  | array [] => "[]".toList
  | array (item :: items) =>
      '[' :: layout.lineBreak (depth + 1) ++ written layout (depth + 1) item ++
        writtenItems layout (depth + 1) items ++ layout.lineBreak depth ++ [']']
  | object [] => ['\x7b', '\x7d']
  | object ((key, value) :: members) =>
      '\x7b' :: layout.lineBreak (depth + 1) ++ written layout (depth + 1) key ++ layout.colon ++
        written layout (depth + 1) value ++ writtenMembers layout (depth + 1) members ++
        layout.lineBreak depth ++ ['\x7d']
  | broken => []

/-- Further items, each after a comma. -/
def writtenItems (layout : Layout) (depth : Nat) : List Json → List Char
  | [] => []
  | item :: items =>
      ',' :: layout.lineBreak depth ++ written layout depth item ++
        writtenItems layout depth items

def writtenMembers (layout : Layout) (depth : Nat) : List (Json × Json) → List Char
  | [] => []
  | (key, value) :: members =>
      ',' :: layout.lineBreak depth ++ written layout depth key ++ layout.colon ++
        written layout depth value ++ writtenMembers layout depth members

end

def compactText (j : Json) : String := String.ofList (written .compact 0 j)

def prettyText (j : Json) : String := String.ofList (written .pretty 0 j)

end NamespacePolicy.Json
