import NamespacePolicy.Command.Output
import NamespacePolicy.Command.Template
import NamespacePolicy.DependencyList

/-! What commands do. -/

namespace NamespacePolicy

structure Outcome where
  exitCode : Nat := 0
  output : String := ""
  error : Option String := none
  written : Option (Path × String) := none
deriving DecidableEq, Repr

namespace Outcome

def failure (message : String) : Outcome := { exitCode := 1, error := some message }

end Outcome

/-- The whole report on a list of dependencies: on the types, on the assemblies, and on the rules
that neither needed. -/
def Analyzer.report (a : Analyzer) (engines : Engines) (files : Files) (list : DependencyList) :
    Report :=
  let (types, a) := a.analyze engines files list.occurrences
  let (assemblies, a) := a.analyzeAssemblies list.assemblyDependencies
  types ++ assemblies ++ { issues := a.unusedIssues }

def Files.text? (files : Files) (path : Path) : Option String :=
  match files.read path with
  | .ok bytes => (Text.Utf8.decode? bytes).map String.ofList
  | .error _ => none

namespace Command

variable (engines : Engines)

/-- Fails if some issue is an error. -/
def runCheck (files : Files) (folder dependencies : Path) (format : OutputFormat) : Outcome :=
  match files.text? dependencies with
  | none => .failure ("Failed to read dependency list: " ++ dependencies.text)
  | some text =>
      match DependencyList.parse text with
      | .error _ => .failure ("Failed to parse dependency list: " ++ dependencies.text)
      | .ok list =>
          let report := (Analyzer.openFolder files folder none).report engines files list
          { exitCode := if report.hasErrors then 1 else 0, output := report.print format }

def runShowConfig (files : Files) (folder : Path) : Outcome :=
  let lines := (Analyzer.openFolder files folder none).lines engines
  { output := String.join (lines.map (· ++ "\n")) }

/-- A policy file that is there is only replaced by force. -/
def runInit (files : Files) (force : Bool) : Outcome :=
  let path := (Path.mk ".").join policyFileName
  if (files.canonical? path).isSome && !force then
    .failure ("Configuration file already exists at " ++ path.text ++
      ". Use --force to overwrite.")
  else if files.read path matches .error .isFolder then
    .failure ("Failed to write " ++ path.text)
  else
    { written := some (path, policyTemplate)
      output := "Created " ++ path.text ++ "\n\nNext steps:\n  1. Edit " ++ policyFileName.text ++
        " to declare the allowed dependencies\n" ++
        "  2. Run: nsdepcop check --deps <dependencies.json>\n" }

def run (files : Files) : Command → Outcome
  | check folder dependencies format => runCheck engines files folder dependencies format
  | showConfig folder => runShowConfig engines files folder
  | init force => runInit files force

/-- Runs the command that a command line names; without one there is nothing to run. -/
def runLine (files : Files) (words : List String) (dependencies? : Option String) : Outcome :=
  match parse words dependencies? with
  | .ok command => command.run engines files
  | .error .help => {}
  | .error .misuse => { exitCode := 2 }

end Command

end NamespacePolicy
