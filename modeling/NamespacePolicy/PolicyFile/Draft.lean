import NamespacePolicy.Policy.Draft
import NamespacePolicy.PolicyFile.Basic

/-!
Drafts of policies from policy files.  All texts of a file are read, in a fixed order; the first one
that does not mean anything is rejected.
-/

namespace NamespacePolicy

open Text

inductive RejectionCause where
  | pattern (cause : PatternError)
  | unknownValue (value : String) (expected : List String)
  | glob (text : String) (cause : GlobError)
deriving DecidableEq, Repr

def RejectionCause.message (reason : String → String) : RejectionCause → String
  | pattern cause => cause.message reason
  | unknownValue value expected =>
      "unknown value `" ++ value ++ "`, expected: " ++ Text.joined ", " expected
  | glob text cause => "invalid glob `" ++ text ++ "`: " ++ cause.message

structure Rejection where
  context : String
  span : Span
  cause : RejectionCause
deriving DecidableEq, Repr

def Rejection.message (reason : String → String) (r : Rejection) : String :=
  r.context ++ ": " ++ r.cause.message reason

namespace PolicyFile

/-- One entry of a section: `allowed[2]`. -/
def entryName (heading : String) (index : Nat) : String :=
  heading ++ "[" ++ toString index ++ "]"

def readSyntax (t : LocatedText) : Except Rejection PatternSyntax :=
  match t.text with
  | "wildcard" => .ok .wildcard
  | "tree" => .ok .tree
  | value =>
      .error ⟨"pattern_syntax", t.span, .unknownValue value ["wildcard", "tree"]⟩

def readSeverity (context : String) (t : LocatedText) : Except Rejection Severity :=
  match Severity.ofText? t.text with
  | some severity => .ok severity
  | none => .error ⟨context, t.span, .unknownValue t.text ["error", "warning", "info"]⟩

def readGlob (index : Nat) (t : LocatedText) : Except Rejection Glob :=
  (Glob.parse t.text).mapError fun cause =>
    ⟨entryName "excluded_files" index, t.span, .glob t.text cause⟩

def readPattern (kind : PatternSyntax) (context : String) (t : LocatedText) :
    Except Rejection Pattern :=
  (Pattern.parse kind t.text).mapError fun cause => ⟨context, t.span, .pattern cause⟩

def readRule (kind : PatternSyntax) (context : String) (source target : LocatedText) :
    Except Rejection Rule := do
  let source ← readPattern kind (context ++ ".from") source
  let target ← readPattern kind (context ++ ".to") target
  return ⟨source, target⟩

/-- Blanks around the name of a type do not belong to it. -/
def readTypes (names : List String) : TypeNames := .ofList (names.map Text.trim)

def readAllow (kind : PatternSyntax) (index : Nat) (e : AllowEntry) :
    Except Rejection (Rule × TypeNames) := do
  return (← readRule kind (entryName "allowed" index) e.source e.target, readTypes e.visible)

def readEntry (kind : PatternSyntax) (heading : String) (index : Nat) (e : RuleEntry) :
    Except Rejection Rule :=
  readRule kind (entryName heading index) e.source e.target

def readMembers (index : Nat) (e : MembersEntry) : Except Rejection (Domain × TypeNames) := do
  let ns ← (Domain.parse e.namespaceName.text).mapError fun cause =>
    ⟨entryName "visible-members" index ++ ".of_namespace", e.namespaceName.span, .pattern cause⟩
  return (ns, readTypes e.types)

def readAll {α β : Type} (read : Nat → α → Except Rejection β) :
    (index : Nat) → List α → Except Rejection (List β)
  | _, [] => .ok []
  | index, entry :: entries => do
      return (← read index entry) :: (← readAll read (index + 1) entries)

def readOptional {α β : Type} (read : α → Except Rejection β) :
    Option α → Except Rejection (Option β)
  | none => .ok none
  | some value => (read value).map some

def draft (f : PolicyFile) : Except Rejection Draft := do
  let kind := (← readOptional readSyntax f.patternSyntax).getD .wildcard
  let dependencySeverity ←
    readOptional (readSeverity "dependency_issue_severity") f.dependencySeverity
  let limitSeverity ← readOptional (readSeverity "max_issue_count_severity") f.limitSeverity
  let excluded ← readAll readGlob 0 f.excluded
  let allowed ← readAll (readAllow kind) 0 f.allowed
  let disallowed ← readAll (readEntry kind "disallowed") 0 f.disallowed
  let visible ← readAll readMembers 0 f.visibleMembers
  let allowedAssembly ← readAll (readEntry kind "allowed-assembly") 0 f.allowedAssembly
  let disallowedAssembly ← readAll (readEntry kind "disallowed-assembly") 0 f.disallowedAssembly
  let d := Draft.empty
    |>.setEnabled f.enabled
    |>.setChildMayUseParent f.childMayUseParent
    |>.setParentMayUseChild f.parentMayUseChild
    |>.setMaxIssues f.maxIssues
    |>.setDependencySeverity dependencySeverity
    |>.setLimitSeverity limitSeverity
    |>.setCheckAssemblies f.checkAssemblies
    |>.addExcluded excluded
  let d := allowed.foldl (fun d (rule, types) => d.addAllow rule types) d
  let d := disallowed.foldl Draft.addDisallow d
  let d := visible.foldl (fun d (ns, types) => d.addVisible ns types) d
  let d := allowedAssembly.foldl Draft.addAllowAssembly d
  return disallowedAssembly.foldl Draft.addDisallowAssembly d

end PolicyFile

end NamespacePolicy
