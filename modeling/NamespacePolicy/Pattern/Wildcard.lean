import NamespacePolicy.Domain

/-!
Wildcard patterns: `?` stands for one component and `*` for any number of them.  A pattern is
ranked by the cheapest way to lay it over a name, so fewer and narrower wildcards rank higher.
-/

namespace NamespacePolicy

/-- The relevance of an exact match; nothing is more relevant. -/
def maxRelevance : Nat := 0xFFFFFFFF

inductive WildcardComponent where
  | literal (name : String)
  | anyOne
  | anyMany
deriving DecidableEq, Repr

def WildcardComponent.text : WildcardComponent → String
  | literal name => name
  | anyOne => "?"
  | anyMany => "*"

def WildcardComponent.isLiteral : WildcardComponent → Bool
  | literal _ => true
  | _ => false

structure Wildcard where
  components : List WildcardComponent
deriving DecidableEq, Repr

namespace Wildcard

def text (w : Wildcard) : String :=
  Text.joined "." (w.components.map WildcardComponent.text)

/-- Reads components from left to right; the first fault counts. -/
def readComponents (pattern : String) (afterMany : Bool) :
    List String → Except PatternError (List WildcardComponent)
  | [] => .ok []
  | part :: rest =>
      if part = "" then .error (.emptyComponent pattern)
      else if part = "?" then (readComponents pattern false rest).map (.anyOne :: ·)
      else if part = "*" then
        if afterMany then .error (.adjacentAnyWildcards pattern)
        else (readComponents pattern true rest).map (.anyMany :: ·)
      else if hasWildcard part then .error (.mixedComponent pattern part)
      else (readComponents pattern false rest).map (.literal part :: ·)

def parse (text : String) : Except PatternError Wildcard := do
  let pattern := Text.trim text
  let components ← readComponents pattern false (Text.pieces '.' pattern)
  if components.all WildcardComponent.isLiteral then .error (.missingWildcard pattern)
  else .ok ⟨components⟩

/-- The cheaper of two costs, where a missing one cannot be paid. -/
def cheaper : Option Nat → Option Nat → Option Nat
  | some a, some b => some (min a b)
  | some a, none => some a
  | none, b => b

/-- The costs of laying the suffixes of a pattern, longest first and the empty one last, over a
name without components. -/
def emptyRow : List WildcardComponent → List (Option Nat)
  | [] => [some 0]
  | component :: rest =>
      let tail := emptyRow rest
      let cost := match component with
        | .anyMany => (tail.headD none).map (· + 1)
        | _ => none
      cost :: tail

/-- The costs over `name :: names` from the costs `below` over `names`, for the same suffixes. -/
def nextRow (name : String) : List WildcardComponent → List (Option Nat) → List (Option Nat)
  | [], _ => [none]
  | component :: rest, below =>
      let tail := nextRow name rest below.tail
      let consumed := below.tail.headD none
      let cost := match component with
        | .literal text => if name = text then consumed else none
        | .anyOne => consumed.map (· + 1)
        | .anyMany => cheaper ((tail.headD none).map (· + 1)) ((below.headD none).map (· + 1))
      cost :: tail

def costRow (pattern : List WildcardComponent) : List String → List (Option Nat)
  | [] => emptyRow pattern
  | name :: names => nextRow name pattern (costRow pattern names)

/-- The least cost of laying the pattern over the components of a name: one for each `?`, and one
and the number of components it stands for, for each `*`. -/
def cost (w : Wildcard) (names : List String) : Option Nat :=
  (costRow w.components names).headD none

def relevance (w : Wildcard) (d : Domain) : Nat :=
  match w.cost d.components with
  | some cost => maxRelevance - cost
  | none => 0

end Wildcard

end NamespacePolicy
