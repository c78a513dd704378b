import NamespacePolicy.Dependency
import NamespacePolicy.Policy.Basic

/-! What a policy says about one dependency. -/

namespace NamespacePolicy

inductive Status where
  | allowed
  | disallowed
  /-- A rule allows the dependency, but not on this type; the visible ones are given. -/
  | hidden (visible : TypeNames)
deriving DecidableEq, Repr

def Status.isAllowed : Status → Bool
  | allowed => true
  | _ => false

/-- A status with the index of the allow rule that decided it. -/
structure Verdict where
  status : Status
  rule : Option Nat := none
deriving DecidableEq, Repr

namespace Policy

/-- The types that can be seen through an allow rule: those it names, or else those that the
target namespace shows.  Where neither names any, all types can be seen. -/
def visibleThrough (p : Policy) (rule : AllowRule) (target : Domain) : Option TypeNames :=
  if !rule.visible.isEmpty then some rule.visible
  else (p.membersOf target).filter (!·.isEmpty)

def verdictOfRule (p : Policy) (index : Nat) (d : TypeDependency) : Verdict :=
  let visible := (p.allow[index]?).bind (p.visibleThrough · d.targetNamespace)
  match visible with
  | some types =>
      if types.contains d.targetType then ⟨.allowed, some index⟩ else ⟨.hidden types, some index⟩
  | none => ⟨.allowed, some index⟩

/-- The verdict on a dependency between types.  Inside a namespace all is allowed; then a disallow
rule forbids, then a relative may be used where the policy says so, and then the most relevant
allow rule decides. -/
def typeVerdict (p : Policy) (d : TypeDependency) : Verdict :=
  let source := d.sourceNamespace
  let target := d.targetNamespace
  if source = target then ⟨.allowed, none⟩
  else if p.disallow.any (·.covers source target) then ⟨.disallowed, none⟩
  else if p.childMayUseParent && source.isBelow target then ⟨.allowed, none⟩
  else if p.parentMayUseChild && target.isBelow source then ⟨.allowed, none⟩
  else
    match mostRelevant p.allowRules source target with
    | none => ⟨.disallowed, none⟩
    | some index => p.verdictOfRule index d

/-- The verdict on a dependency between assemblies, which have neither relatives nor types. -/
def assemblyVerdict (p : Policy) (d : AssemblyDependency) : Verdict :=
  if d.isInternal then ⟨.allowed, none⟩
  else if p.disallowAssembly.any (·.covers d.source d.target) then ⟨.disallowed, none⟩
  else
    match mostRelevant p.allowAssembly d.source d.target with
    | none => ⟨.disallowed, none⟩
    | some index => ⟨.allowed, some index⟩

end Policy

end NamespacePolicy
