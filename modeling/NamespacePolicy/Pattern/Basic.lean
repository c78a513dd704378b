import NamespacePolicy.Pattern.Expression
import NamespacePolicy.Pattern.Tree

/-!
Patterns over domains.  A pattern gives each domain a relevance: nothing means that it does not
match, and of several patterns that match the most relevant one is the most specific.
-/

namespace NamespacePolicy

inductive Pattern where
  | exact (d : Domain)
  | wildcard (w : Wildcard)
  | expression (e : Expression)
  | tree (t : Tree)
deriving DecidableEq

inductive PatternSyntax where
  | wildcard
  | tree
deriving DecidableEq, Repr, Inhabited

namespace Pattern

def text : Pattern → String
  | exact d => d.text
  | wildcard w => w.text
  | expression e => e.text
  | tree t => t.text

instance : ToString Pattern := ⟨text⟩

/-- Reads a pattern.  A slash begins an expression; of the rest, what has a wildcard is read in
the given way, and what has none is a plain name. -/
def parse (kind : PatternSyntax) (text : String) : Except PatternError Pattern :=
  let pattern := Text.trim text
  if pattern.toList.head? = some '/' then (Expression.parse pattern).map .expression
  else if !hasWildcard pattern then (Domain.parse pattern).map .exact
  else
    match kind with
    | .wildcard => (Wildcard.parse pattern).map .wildcard
    | .tree => (Tree.parse pattern).map .tree

def relevance (p : Pattern) (d : Domain) : Nat :=
  match p with
  | exact e => if e = d then maxRelevance else 0
  | wildcard w => w.relevance d
  | expression e => e.relevance d
  | tree t => t.relevance d

def covers (p : Pattern) (d : Domain) : Bool := 0 < p.relevance d

end Pattern

end NamespacePolicy
