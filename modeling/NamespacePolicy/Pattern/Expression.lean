import NamespacePolicy.Domain
import NamespacePolicy.Regex.Compile
import NamespacePolicy.Regex.Search

/-!
Expressions: patterns between slashes.  The body is put between anchors, `^(?:` and `)$`, and the
whole is read as one regular expression; a name matches where that expression is found.
-/

namespace NamespacePolicy

def anchored (body : List Char) : List Char :=
  ['^', '(', '?', ':'] ++ body ++ [')', '$']

/-- A pattern with the regular expression it was found to mean. -/
structure Expression where
  body : String
  meaning : Regex.CharExpr
  compiled : Regex.compile? (anchored body.toList) = some meaning

namespace Expression

/-- The body decides everything else. -/
theorem eq_of_body_eq {a b : Expression} (h : a.body = b.body) : a = b := by
  obtain ⟨body, meaning, compiled⟩ := a
  obtain ⟨body', meaning', compiled'⟩ := b
  simp only at h
  subst h
  have : meaning = meaning' := Option.some.inj (compiled.symm.trans compiled')
  subst this
  rfl

instance : DecidableEq Expression := fun a b =>
  if h : a.body = b.body then isTrue (eq_of_body_eq h)
  else isFalse fun same => h (same ▸ rfl)

def text (e : Expression) : String := "/" ++ e.body ++ "/"

def body? (pattern : String) : Option String :=
  match pattern.toList with
  | '/' :: rest =>
      if rest.getLast? = some '/' ∧ rest.dropLast ≠ [] then some (String.ofList rest.dropLast)
      else none
  | _ => none

/-- The pattern with the given body, if the body has a meaning. -/
def ofBody? (body : String) : Option Expression :=
  match h : Regex.compile? (anchored body.toList) with
  | some meaning => some ⟨body, meaning, h⟩
  | none => none

def parse (text : String) : Except PatternError Expression :=
  let pattern := Text.trim text
  match body? pattern with
  | none => .error (.malformedRegex pattern)
  | some body =>
      match ofBody? body with
      | some e => .ok e
      | none => .error (.invalidRegex pattern)

/-- All expressions that match rank alike. -/
def relevance (e : Expression) (d : Domain) : Nat :=
  if e.meaning.foundIn d.text.toList then 1 else 0

end Expression

end NamespacePolicy
