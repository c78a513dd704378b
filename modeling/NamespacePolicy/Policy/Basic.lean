import NamespacePolicy.Glob
import NamespacePolicy.Rule
import NamespacePolicy.Severity
import NamespacePolicy.TypeNames

/-! The policy in force: all settings, and the rules in the order in which they were given. -/

namespace NamespacePolicy

/-- A rule that allows what it matches.  Where it names types, only those are visible through
it. -/
structure AllowRule where
  rule : Rule
  visible : TypeNames
deriving DecidableEq

structure Policy where
  enabled : Bool := true
  childMayUseParent : Bool := false
  parentMayUseChild : Bool := false
  /-- After how many illegal dependencies the analysis stops. -/
  maxIssues : Nat := 100
  dependencySeverity : Severity := .warning
  limitSeverity : Severity := .warning
  checkAssemblies : Bool := false
  excluded : List Glob := []
  allow : List AllowRule := []
  disallow : List Rule := []
  /-- The types of a namespace that others may use, for rules that name no types. -/
  visibleMembers : List (Domain × TypeNames) := []
  allowAssembly : List Rule := []
  disallowAssembly : List Rule := []
deriving DecidableEq

namespace Policy

def excludes (p : Policy) (path : String) : Bool := p.excluded.any (·.covers path)

def allowRules (p : Policy) : List Rule := p.allow.map (·.rule)

def membersOf (p : Policy) (ns : Domain) : Option TypeNames :=
  (p.visibleMembers.find? fun entry => entry.1 == ns).map (·.2)

end Policy

end NamespacePolicy
