import NamespacePolicy.Pattern.Wildcard

/-! Trees: a domain with everything below it, ranked by the length of the root's name. -/

namespace NamespacePolicy

structure Tree where
  root : Domain
deriving DecidableEq, Repr

namespace Tree

def text (t : Tree) : String :=
  if t.root.isGlobal then "*" else t.root.text ++ ".*"

def rootText? (pattern : String) : Option String :=
  if ['.', '*'].isSuffixOf pattern.toList then
    some (String.ofList (pattern.toList.take (pattern.length - 2)))
  else none

def parse (text : String) : Except PatternError Tree :=
  let pattern := Text.trim text
  if pattern = "*" then .ok ⟨.global⟩
  else
    match rootText? pattern with
    | some root =>
        if hasWildcard root then .error (.invalidTree pattern)
        else (Domain.parse root).map Tree.mk
    | none => .error (.invalidTree pattern)

/-- One for the global tree; else the length of the root's text in bytes, and its dot. -/
def relevance (t : Tree) (d : Domain) : Nat :=
  if d = t.root ∨ d.isBelow t.root then
    if t.root.isGlobal then 1
    else
      let length := t.root.text.utf8ByteSize + 1
      if length ≤ maxRelevance then length else maxRelevance - 1
  else 0

end Tree

end NamespacePolicy
