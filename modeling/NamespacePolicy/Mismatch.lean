import NamespacePolicy.Text.Quoted

/-! Why well-formed data does not have the shape that is wanted. -/

namespace NamespacePolicy

inductive Found where
  | null
  | boolean (value : Bool)
  | integer (value : Int)
  | floating (text : String)
  | string (text : String)
  | sequence
  | map
deriving DecidableEq, Repr

def Found.text : Found → String
  | null => "null"
  | boolean value => "boolean `" ++ toString value ++ "`"
  | integer value => "integer `" ++ toString value ++ "`"
  | floating value => "floating point `" ++ value ++ "`"
  | string value => "string " ++ Text.quoted value
  | sequence => "sequence"
  | map => "map"

inductive Mismatch where
  | wrongType (found : Found) (expected : String)
  /-- The type is right, but the value is out of bounds. -/
  | wrongValue (found : Found) (expected : String)
  /-- A list is too short to give all members of a record. -/
  | wrongLength (length : Nat) (record : String) (members : Nat)
  | unknownField (name : String) (expected : List String)
  | missingField (name : String)
  | duplicateField (name : String)
  | unknownVariant (name : String) (expected : List String)
deriving DecidableEq, Repr

def oneOf (names : List String) : String :=
  match names.map fun name => "`" ++ name ++ "`" with
  | [a, b] => a ++ " or " ++ b
  | [a] => a
  | quoted => "one of " ++ Text.joined ", " quoted

def Mismatch.message : Mismatch → String
  | wrongType found expected => "invalid type: " ++ found.text ++ ", expected " ++ expected
  | wrongValue found expected => "invalid value: " ++ found.text ++ ", expected " ++ expected
  | wrongLength length record members =>
      "invalid length " ++ toString length ++ ", expected struct " ++ record ++ " with " ++
        toString members ++ (if members = 1 then " element" else " elements")
  | unknownField name expected =>
      "unknown field `" ++ name ++ "`, expected " ++ oneOf expected
  | missingField name => "missing field `" ++ name ++ "`"
  | duplicateField name => "duplicate field `" ++ name ++ "`"
  | unknownVariant name expected =>
      "unknown variant `" ++ name ++ "`, expected " ++ oneOf expected

end NamespacePolicy
