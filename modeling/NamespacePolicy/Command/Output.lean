import NamespacePolicy.Analyzer
import NamespacePolicy.Report.Json
import NamespacePolicy.Command.Basic

/-! What commands print. -/

namespace NamespacePolicy

inductive Colour where
  | red
  | green
  | yellow
  | blue
deriving DecidableEq, Repr

def Colour.start : Colour → String
  | red => "\x1b[31m"
  | green => "\x1b[32m"
  | yellow => "\x1b[33m"
  | blue => "\x1b[34m"

def colourEnd : String := "\x1b[0m"

def coloured (colour : Colour) (text : String) : String := colour.start ++ text ++ colourEnd

def Severity.colour : Severity → Colour
  | error => .red
  | warning => .yellow
  | info => .blue

def Issue.block (i : Issue) : String :=
  let place := match i.location with
    | some l => " at " ++ l.file ++ ":" ++ toString l.line ++ ":" ++ toString l.column
    | none => ""
  i.code ++ place ++ "\n  " ++ coloured i.severity.colour i.severity.text ++ ": " ++ i.message ++
    "\n\n"

namespace Report

/-- The last line, coloured by the most serious issues; infos count for nothing here. -/
def summary (r : Report) : String :=
  let errors := r.count .error
  let warnings := r.count .warning
  let colour : Colour := if 0 < errors then .red else if 0 < warnings then .yellow else .green
  coloured colour ("Found " ++ toString errors ++ " error(s), " ++ toString warnings ++
    " warning(s), " ++ toString (r.count .info) ++ " info(s) in " ++ toString r.checked ++
    " dependencies") ++ "\n"

def print (r : Report) : OutputFormat → String
  | .text => String.join (r.issues.map Issue.block) ++ r.summary
  | .json => r.prettyJson ++ "\n"
  | .compact => String.join (r.issues.map fun i => i.text ++ "\n")

end Report

def listing (heading : String) (entries : List String) : List String :=
  (heading ++ " (" ++ toString entries.length ++ "):") :: entries.map ("  " ++ ·)

def AllowRule.text (a : AllowRule) : String :=
  if a.visible.isEmpty then a.rule.text else a.rule.text ++ " [" ++ a.visible.text ++ "]"

namespace Policy

def settingLine (name value : String) : String := "  " ++ name ++ " = " ++ value

def settingLines (p : Policy) : List String :=
  [settingLine "child_can_depend_on_parent_implicitly" (toString p.childMayUseParent),
    settingLine "parent_can_depend_on_child_implicitly" (toString p.parentMayUseChild),
    settingLine "max_issue_count" (toString p.maxIssues),
    settingLine "dependency_issue_severity" p.dependencySeverity.text,
    settingLine "max_issue_count_severity" p.limitSeverity.text,
    settingLine "check_assembly_dependencies" (toString p.checkAssemblies),
    settingLine "excluded_files"
      ("[" ++ Text.joined ", " (p.excluded.map fun g => Text.quoted g.text) ++ "]")]

def memberLines (p : Policy) : List String :=
  (p.visibleMembers.mergeSort fun a b => a.1.text ≤ b.1.text).map fun (ns, types) =>
    ns.text ++ ": " ++ types.text

def lines (p : Policy) : List String :=
  "Settings:" :: p.settingLines ++
    listing "Allowed" (p.allow.map (·.text)) ++
    listing "Disallowed" (p.disallow.map (·.text)) ++
    listing "Visible members" p.memberLines ++
    listing "Allowed assemblies" (p.allowAssembly.map (·.text)) ++
    listing "Disallowed assemblies" (p.disallowAssembly.map (·.text))

end Policy

namespace Analyzer

def lines (a : Analyzer) (engines : Engines) : List String :=
  let files := a.hierarchy.paths.map fun p => "  " ++ p.text
  ["Project: " ++ a.folder.text, "State:   " ++ a.state.text] ++
    (if files.isEmpty then [] else "Files (most general first):" :: files) ++
    match a.state with
    | .enabled policy => policy.lines
    | .failed e => ["Error:   " ++ e.message engines]
    | .disabled => []
    | .noFile => []

end Analyzer

end NamespacePolicy
