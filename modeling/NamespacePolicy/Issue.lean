import NamespacePolicy.Dependency
import NamespacePolicy.Severity

/-! What an analysis reports. -/

namespace NamespacePolicy

inductive IssueKind where
  | illegalDependency
  | tooManyIssues
  | noConfigFile
  | configDisabled
  | configError
  | illegalAssemblyDependency
  | unusedAllowRule
deriving DecidableEq, Repr, Inhabited

namespace IssueKind

def all : List IssueKind :=
  [illegalDependency, tooManyIssues, noConfigFile, configDisabled, configError,
    illegalAssemblyDependency, unusedAllowRule]

/-- The code never changes, whatever happens to the name. -/
def code : IssueKind → String
  | illegalDependency => "NSDEPCOP01"
  | tooManyIssues => "NSDEPCOP02"
  | noConfigFile => "NSDEPCOP03"
  | configDisabled => "NSDEPCOP04"
  | configError => "NSDEPCOP05"
  | illegalAssemblyDependency => "NSDEPCOP06"
  | unusedAllowRule => "NSDEPCOP07"

def name : IssueKind → String
  | illegalDependency => "illegal-dependency"
  | tooManyIssues => "too-many-issues"
  | noConfigFile => "no-config-file"
  | configDisabled => "config-disabled"
  | configError => "config-error"
  | illegalAssemblyDependency => "illegal-assembly-dependency"
  | unusedAllowRule => "unused-allow-rule"

def ofName? (name : String) : Option IssueKind := all.find? (·.name == name)

theorem ofName?_name (k : IssueKind) : ofName? k.name = some k := by
  cases k <;> rfl

end IssueKind

structure Issue where
  kind : IssueKind
  severity : Severity
  message : String
  location : Option Location := none
deriving DecidableEq, Repr

namespace Issue

def code (i : Issue) : String := i.kind.code

def text (i : Issue) : String :=
  let place := match i.location with
    | some l => l.file ++ ":" ++ toString l.line ++ ":" ++ toString l.column ++ ": "
    | none => ""
  place ++ i.severity.text ++ " [" ++ i.code ++ "] " ++ i.message

instance : ToString Issue := ⟨text⟩

end Issue

end NamespacePolicy
