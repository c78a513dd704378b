import NamespacePolicy.Pattern.Basic

/-! Rules: a pattern for the domain that uses and one for the domain that is used. -/

namespace NamespacePolicy

structure Rule where
  source : Pattern
  target : Pattern
deriving DecidableEq

namespace Rule

/-- Reads both sides; of two faults the one on the using side counts. -/
def parse (kind : PatternSyntax) (source target : String) : Except PatternError Rule := do
  let source ← Pattern.parse kind source
  let target ← Pattern.parse kind target
  return ⟨source, target⟩

def text (r : Rule) : String := r.source.text ++ " -> " ++ r.target.text

instance : ToString Rule := ⟨text⟩

def covers (r : Rule) (source target : Domain) : Bool :=
  r.source.covers source && r.target.covers target

/-- How relevant the rule is on each side, when both match. -/
def relevance (r : Rule) (source target : Domain) : Option (Nat × Nat) :=
  let a := r.source.relevance source
  if a = 0 then none
  else
    let b := r.target.relevance target
    if b = 0 then none else some (a, b)

end Rule

/-- The first pair is the larger one: by its first part, and between equals by its second. -/
def outranks (a b : Nat × Nat) : Bool := b.1 < a.1 || (a.1 == b.1 && b.2 < a.2)

/-- Goes through the rules that are left, of which the first has the given index, with the best
one so far. -/
def mostRelevantFrom (source target : Domain) :
    (index : Nat) → (best : Option (Nat × (Nat × Nat))) → List Rule → Option (Nat × (Nat × Nat))
  | _, best, [] => best
  | index, best, rule :: rest =>
      let best := match rule.relevance source target, best with
        | none, best => best
        | some r, none => some (index, r)
        | some r, some (i, top) => if outranks r top then some (index, r) else some (i, top)
      mostRelevantFrom source target (index + 1) best rest

/-- The index of the most relevant rule that matches; of equally relevant ones the first. -/
def mostRelevant (rules : List Rule) (source target : Domain) : Option Nat :=
  (mostRelevantFrom source target 0 none rules).map (·.1)

end NamespacePolicy
