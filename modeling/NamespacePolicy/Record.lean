import NamespacePolicy.Mismatch

/-!
Records in data formats.  A record has named members, some of which have to be there; a format may
also list the members in order.
-/

namespace NamespacePolicy

structure Field (V E : Type) where
  name : String
  required : Bool
  check : V → Except E Unit

namespace Field

variable {V E α : Type}

def needed (name : String) (read : V → Except E α) : Field V E :=
  ⟨name, true, fun value => (read value).map fun _ => ()⟩

def free (name : String) (read : V → Except E α) : Field V E :=
  ⟨name, false, fun value => (read value).map fun _ => ()⟩

end Field

structure Shape (V E : Type) where
  name : String
  fields : List (Field V E)

/-- The values of a record by name. -/
abbrev Members (V : Type) := List (String × V)

namespace Shape

variable {V E : Type}

def field? (s : Shape V E) (name : String) : Option (Field V E) :=
  s.fields.find? (·.name == name)

def names (s : Shape V E) : List String := s.fields.map (·.name)

def missing? (s : Shape V E) (members : Members V) : Option Mismatch :=
  (s.fields.find? fun f => f.required && (members.lookup f.name).isNone).map
    fun f => .missingField f.name

/-- Takes values as the members of the given fields, in order; gives also the values that are too
many.  The error of too few values depends on the format. -/
def inOrder (tooFew : E) : List (Field V E) → List V → Except E (Members V × List V)
  | [], values => .ok ([], values)
  | fields, [] => if fields.any (·.required) then .error tooFew else .ok ([], [])
  | field :: fields, value :: values => do
      field.check value
      let (members, more) ← inOrder tooFew fields values
      return ((field.name, value) :: members, more)

def tooFew (s : Shape V E) (count : Nat) : Mismatch :=
  .wrongLength count s.name s.fields.length

end Shape

namespace Members

variable {V E α : Type}

def get (members : Members V) (name : String) (read : V → Except E α) (absent : Mismatch → E) :
    Except E α :=
  match members.lookup name with
  | some value => read value
  | none => .error (absent (.missingField name))

def getD (members : Members V) (name : String) (read : V → Except E α) (default : α) :
    Except E α :=
  match members.lookup name with
  | some value => read value
  | none => .ok default

end Members

end NamespacePolicy
