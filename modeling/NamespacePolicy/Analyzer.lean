import NamespacePolicy.Hierarchy
import NamespacePolicy.Report
import NamespacePolicy.Validator

/-!
Analyses of one project folder.  Every change of its policy begins a new generation with a fresh
validator; older generations stay as they were.
-/

namespace NamespacePolicy

/-- A state of the policy and the validator that works by it. -/
structure Generation where
  number : Nat
  state : PolicyState
  validator : Option Validator

namespace Generation

def ofState (number : Nat) (state : PolicyState) : Generation :=
  { number, state, validator := state.policy?.map fun policy => { policy } }

def ask {α : Type} (g : Generation) (question : Validator → α × Validator) :
    Option α × Generation :=
  match g.validator with
  | none => (none, g)
  | some v =>
      let (answer, v) := question v
      (some answer, { g with validator := some v })

end Generation

def illegalMessage? (d : TypeDependency) : Status → Option String
  | .allowed => none
  | .disallowed => some ("Illegal namespace reference: " ++ d.text)
  | .hidden visible =>
      some ("Illegal namespace reference: " ++ d.text ++ ". Visible types in " ++
        d.targetNamespace.text ++ ": " ++ visible.text)

def limitIssue (p : Policy) : Issue :=
  { kind := .tooManyIssues
    severity := p.limitSeverity
    message := "Too many issues, analysis stopped after " ++ toString p.maxIssues ++
      " reported issues" }

def PolicyState.issue? (engines : Engines) : PolicyState → Option Issue
  | .enabled _ => none
  | .noFile =>
      some ⟨.noConfigFile, .info, "No config file found, analysis skipped", none⟩
  | .disabled =>
      some ⟨.configDisabled, .info, "Analysis is disabled in the config file", none⟩
  | .failed e =>
      some ⟨.configError, .error, "Error loading config: " ++ e.message engines,
        (e.position? engines).map fun position =>
          ⟨e.path.text, position.line, position.column⟩⟩

/-- Checks occurrences one after another, when so many issues are reported already.  Those in
excluded files do not count; after the most issues there may be, the next one ends the check. -/
def checkOccurrences (isExcluded : Option Location → Bool) :
    (reported : Nat) → Validator → List Occurrence → Report × Validator
  | _, v, [] => ({}, v)
  | reported, v, o :: rest =>
      if isExcluded o.location then checkOccurrences isExcluded reported v rest
      else
        let (status, v) := v.checkType o.dependency
        match illegalMessage? o.dependency status with
        | none =>
            let (report, v) := checkOccurrences isExcluded reported v rest
            ({ checked := 1 } ++ report, v)
        | some message =>
            if reported = v.policy.maxIssues then
              ({ issues := [limitIssue v.policy], checked := 1 }, v)
            else
              let issue : Issue :=
                ⟨.illegalDependency, v.policy.dependencySeverity, message, o.location⟩
              let (report, v) := checkOccurrences isExcluded (reported + 1) v rest
              ({ issues := [issue], checked := 1 } ++ report, v)

def checkAssemblies : Validator → List AssemblyDependency → Report × Validator
  | v, [] => ({}, v)
  | v, d :: rest =>
      let (status, v) := v.checkAssembly d
      let issues := if status.isAllowed then [] else
        [{ kind := .illegalAssemblyDependency, severity := v.policy.dependencySeverity,
           message := "Illegal assembly reference: " ++ d.text }]
      let (report, v) := checkAssemblies v rest
      ({ issues, checked := 1 } ++ report, v)

/-- An issue for each allow rule that was not decisive; those for assemblies only count if
assemblies are checked. -/
def Validator.unusedIssues (v : Validator) : List Issue :=
  let rules := v.unusedTypeRules ++
    if v.policy.checkAssemblies then v.unusedAssemblyRules else []
  rules.map fun rule =>
    { kind := .unusedAllowRule, severity := .info,
      message := "Allow rule `" ++ rule.text ++ "` was not used" }

/-- The absolute path of a source file without links and dots.  The file need not be there: then
its folder is looked for, and if that is missing too the path is only cleaned up. -/
def resolveFile (files : Files) (file : Path) : Path :=
  match files.canonical? file with
  | some path => path
  | none =>
      let file := file.normalized
      match file.parent?.bind files.canonical?, file.fileName? with
      | some folder, some name => folder.join ⟨name⟩
      | _, _ => file

/-- The path by which a source file is matched: seen from the project folder, if it lies there. -/
def matchedPath (files : Files) (folder : Path) (file : Path) : Path :=
  if file.isAbsolute then
    let file := resolveFile files file
    (file.within? folder).getD file
  else file.normalized

def isExcluded (files : Files) (folder : Path) (p : Policy) : Option Location → Bool
  | none => false
  | some location =>
      !p.excluded.isEmpty && p.excludes (matchedPath files folder ⟨location.file⟩).text

structure Analyzer where
  /-- The project folder, resolved if it was there in the beginning. -/
  folder : Path
  hierarchy : Hierarchy
  generation : Generation
  /-- Generations that were replaced, the latest first. -/
  earlier : List Generation := []

namespace Analyzer

/-- Looks at the policy files again.  If anything may have changed, a new generation begins. -/
def refresh (a : Analyzer) (files : Files) : Analyzer × Bool :=
  let (hierarchy, changed) := a.hierarchy.refresh files
  if changed then
    ({ a with
        hierarchy
        generation := .ofState (a.generation.number + 1) hierarchy.state
        earlier := a.generation :: a.earlier }, true)
  else (a, false)

def openFolder (files : Files) (folder : Path) (depth : Option Nat) : Analyzer :=
  let a : Analyzer :=
    { folder := (files.canonical? folder).getD folder.normalized
      hierarchy := .ofFolder folder depth
      generation := .ofState 0 .noFile }
  (a.refresh files).1

def state (a : Analyzer) : PolicyState := a.generation.state

def ask {α : Type} (a : Analyzer) (question : Validator → α × Validator) :
    Option α × Analyzer :=
  let (answer, generation) := a.generation.ask question
  (answer, { a with generation })

def askNumbered {α : Type} (number : Nat) (question : Validator → α × Validator) :
    List Generation → Option α × List Generation
  | [] => (none, [])
  | g :: rest =>
      if g.number = number then
        let (answer, g) := g.ask question
        (answer, g :: rest)
      else
        let (answer, rest) := askNumbered number question rest
        (answer, g :: rest)

def askIn {α : Type} (a : Analyzer) (number : Nat) (question : Validator → α × Validator) :
    Option α × Analyzer :=
  if a.generation.number = number then a.ask question
  else
    let (answer, earlier) := askNumbered number question a.earlier
    (answer, { a with earlier })

def generation? (a : Analyzer) (number : Nat) : Option Generation :=
  (a.generation :: a.earlier).find? (·.number = number)

/-- Analyses type dependencies.  Without an enabled policy the only issue says so. -/
def analyze (a : Analyzer) (engines : Engines) (files : Files) (occurrences : List Occurrence) :
    Report × Analyzer :=
  let (report, a) := a.ask fun v =>
    checkOccurrences (isExcluded files a.folder v.policy) 0 v occurrences
  (report.getD { issues := (a.state.issue? engines).toList }, a)

def analyzeAssemblies (a : Analyzer) (dependencies : List AssemblyDependency) :
    Report × Analyzer :=
  let (report, a) := a.ask fun v =>
    if v.policy.checkAssemblies then checkAssemblies v dependencies else ({}, v)
  (report.getD {}, a)

def unusedIssues (a : Analyzer) : List Issue :=
  match a.generation.validator with
  | some v => v.unusedIssues
  | none => []

def resetUsage (a : Analyzer) : Analyzer := (a.ask fun v => ((), v.resetUsage)).2

end Analyzer

end NamespacePolicy
