import NamespacePolicy.Number.Binary64

/-!
Values of JSON texts.  A text is kept as far as it could be read: where it stops being well formed
stands a value of its own, so that whoever looks at the parts in order meets a wrong shape and
a broken text in the order in which they were written.
-/

namespace NamespacePolicy

inductive JsonNumber where
  | natural (value : Nat)
  /-- The number `-value`. -/
  | negative (value : Nat)
  | floating (value : Binary64)
  /-- The number is too large for a floating point number. -/
  | tooLarge
deriving DecidableEq, Repr

inductive Json where
  | null
  | boolean (value : Bool)
  | number (value : JsonNumber)
  /-- Nothing stands for a string with half of a surrogate pair. -/
  | string (text : Option String)
  | array (items : List Json)
  /-- In a well-formed text every key is a string. -/
  | object (members : List (Json × Json))
  /-- Here the text is not well formed, and what follows was not read. -/
  | broken
deriving Repr

namespace Json

def ofString (text : String) : Json := string (some text)

def ofNat (value : Nat) : Json := number (.natural value)

def record (members : List (String × Json)) : Json :=
  object (members.map fun (key, value) => (ofString key, value))

mutual

/-- Whether the text could be read to the end of the value.  What is only passed over may hold
any string and number. -/
def isWhole : Json → Bool
  | array items => areWhole items
  | object members => haveWhole members
  | broken => false
  | _ => true

def areWhole : List Json → Bool
  | [] => true
  | item :: items => item.isWhole && areWhole items

def haveWhole : List (Json × Json) → Bool
  | [] => true
  | (string _, value) :: members => value.isWhole && haveWhole members
  | _ :: _ => false

end

end Json

end NamespacePolicy
