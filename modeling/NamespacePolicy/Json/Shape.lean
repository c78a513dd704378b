import NamespacePolicy.Json.Reader
import NamespacePolicy.Number.Decimal
import NamespacePolicy.Record

/-!
Reading typed data from JSON values.  The parts of a value are looked at in the order in which they
were written, so of several faults the first one is reported, and a wrong shape is reported even
if the text breaks off after it.
-/

namespace NamespacePolicy

inductive JsonError where
  | malformed
  | mismatch (cause : Mismatch)
deriving DecidableEq, Repr

namespace Json

def found? : Json → Option Found
  | null => some .null
  | boolean value => some (.boolean value)
  | number (.natural n) => some (.integer n)
  | number (.negative n) => some (.integer (-n))
  | number (.floating x) => some (.floating x.compactText)
  | number .tooLarge => none
  | string text => text.map .string
  | array _ => some .sequence
  | object _ => some .map
  | broken => none

def unexpected (j : Json) (expected : String) : JsonError :=
  match j.found? with
  | some found => .mismatch (.wrongType found expected)
  | none => .malformed

def textAs (expected : String) : Json → Except JsonError String
  | string (some text) => .ok text
  | j => .error (j.unexpected expected)

def text (j : Json) : Except JsonError String := textAs "a string" j

def path (j : Json) : Except JsonError String := textAs "path string" j

def natural : Json → Except JsonError Nat
  | number (.natural n) => .ok n
  | number (.negative n) => .error (.mismatch (.wrongValue (.integer (-n)) "usize"))
  | j => .error (j.unexpected "usize")

def list {α : Type} (read : Json → Except JsonError α) : Json → Except JsonError (List α)
  | array items => items.mapM read
  | j => .error (j.unexpected "a sequence")

def optional {α : Type} (read : Json → Except JsonError α) : Json → Except JsonError (Option α)
  | null => .ok none
  | j => (read j).map some

/-- One of some names: a string, or an object whose only key is the name and has no value. -/
def variant (names : List String) : Json → Except JsonError String
  | string (some name) => known name
  | object ((string (some name), value) :: more) => do
      let name ← known name
      match value with
      | null => if more.isEmpty then return name else throw .malformed
      | value => throw (value.unexpected "unit")
  | _ => .error .malformed
where
  known (name : String) : Except JsonError String :=
    if name ∈ names then .ok name else .error (.mismatch (.unknownVariant name names))

abbrev Shape := NamespacePolicy.Shape Json JsonError

/-- Checks the members of an object after those whose names were seen.  A strict record has no
members but its own. -/
def checkMembers (s : Shape) (strict : Bool) : (seen : List String) → List (Json × Json) →
    Except JsonError (Members Json)
  | _, [] => .ok []
  | seen, (string (some key), value) :: members =>
      match s.field? key with
      | some field => do
          if key ∈ seen then throw (.mismatch (.duplicateField key))
          field.check value
          return (key, value) :: (← checkMembers s strict (key :: seen) members)
      | none =>
          if strict then .error (.mismatch (.unknownField key s.names))
          else if value.isWhole then checkMembers s strict seen members
          else .error .malformed
  | _, _ :: _ => .error .malformed

/-- The members of a record by name.  A record is an object, or an array that lists the members in
order. -/
def members (s : Shape) (strict : Bool) : Json → Except JsonError (Members Json)
  | object members => do
      let members ← checkMembers s strict [] members
      match s.missing? members with
      | some missing => throw (.mismatch missing)
      | none => return members
  | array items => do
      let (members, more) ← Shape.inOrder (.mismatch (s.tooFew items.length)) s.fields items
      if more.isEmpty then return members else throw .malformed
  | j => .error (j.unexpected ("struct " ++ s.name))

def member {α : Type} (members : Members Json) (name : String)
    (read : Json → Except JsonError α) : Except JsonError α :=
  members.get name read .mismatch

def parse {α : Type} (read : Json → Except JsonError α) (text : String) : Except JsonError α := do
  let document := Json.read text
  let value ← read document.value
  if document.ended then return value else throw .malformed

end Json

end NamespacePolicy
