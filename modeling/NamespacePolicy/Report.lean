import NamespacePolicy.Issue

/-! The outcome of an analysis: its issues, and how many dependencies it looked at. -/

namespace NamespacePolicy

structure Report where
  issues : List Issue := []
  checked : Nat := 0
deriving DecidableEq, Repr, Inhabited

namespace Report

def ofIssue (i : Issue) : Report := { issues := [i] }

def add (r : Report) (i : Issue) : Report := { r with issues := r.issues ++ [i] }

def append (r other : Report) : Report :=
  { issues := r.issues ++ other.issues, checked := r.checked + other.checked }

instance : Append Report := ⟨append⟩

def reaches (r : Report) (severity : Severity) : Bool := r.issues.any (severity ≤ ·.severity)

def hasErrors (r : Report) : Bool := r.reaches .error

def ofKind (r : Report) (kind : IssueKind) : List Issue := r.issues.filter (·.kind = kind)

def count (r : Report) (severity : Severity) : Nat := r.issues.countP (·.severity = severity)

end Report

end NamespacePolicy
