import NamespacePolicy.Command.Run
import NamespacePolicy.Proofs.Generations
import NamespacePolicy.Proofs.Passes

/-!
What a check reports.  A freshly opened analyzer is asked about the types, then about the
assemblies, and then for the rules that neither needed.  Each of these may be left out by the state
or by the policy, and the first may end early; the report is composed of what they say.
-/

namespace NamespacePolicy.Proofs.CheckReport

open Drafts Generations LevelChain Merge Passes ValidatorRuns

def counted (files : Files) (folder : Path) (p : Policy) (list : DependencyList) :
    List Occurrence :=
  list.occurrences.filter fun o => !isExcluded files folder p o.location

/-- The dependencies between assemblies that are checked. -/
def assembliesOf (p : Policy) (list : DependencyList) : List AssemblyDependency :=
  if p.checkAssemblies then list.assemblyDependencies else []

/-- The report on a list of dependencies in each state. -/
inductive Reports (engines : Engines) (files : Files) (folder : Path) (list : DependencyList) :
    PolicyState → Report → Prop
  | noFile :
      Reports engines files folder list .noFile
        ⟨[⟨.noConfigFile, .info, "No config file found, analysis skipped", none⟩], 0⟩
  | disabled :
      Reports engines files folder list .disabled
        ⟨[⟨.configDisabled, .info, "Analysis is disabled in the config file", none⟩], 0⟩
  | failed (e : PolicyError) :
      Reports engines files folder list (.failed e)
        ⟨[⟨.configError, .error, "Error loading config: " ++ e.message engines,
          (e.position? engines).map fun position =>
            ⟨e.path.text, position.line, position.column⟩⟩], 0⟩
  | enabled {p : Policy} {seen : List Occurrence}
      (hseen : Examined p p.maxIssues (counted files folder p list) seen) :
      Reports engines files folder list (.enabled p)
        ⟨limited p p.maxIssues (offences p (counted files folder p list)) ++
            (assembliesOf p list).filterMap (assemblyOffence? p) ++
            (unusedRules p seen (assembliesOf p list)).map unusedIssue,
          seen.length + (assembliesOf p list).length⟩

theorem policy?_eq_some_iff {state : PolicyState} {p : Policy} :
    state.policy? = some p ↔ state = .enabled p := by
  cases state <;> simp [PolicyState.policy?]

section Open

variable (files : Files) (folder : Path) (depth : Option Nat)

theorem validator_openFolder :
    (Analyzer.openFolder files folder depth).generation.validator =
      (Analyzer.openFolder files folder depth).state.policy?.map fun policy => { policy } :=
  rfl

/-- The policy of a fresh analyzer comes from a draft, so it lists no rule twice. -/
theorem nodup_openFolder {p : Policy}
    (h : (Analyzer.openFolder files folder depth).state = .enabled p) :
    p.allowRules.Nodup ∧ p.allowAssembly.Nodup := by
  have hopened := consistent_start folder depth files
  have hyields := (hopened.merged.symm.trans hopened.state.symm).trans h
  rw [stateOfLevels_eq_iff_yields] at hyields
  generalize List.map _ _ = chain at hyields
  cases hyields with
  | @enabled drafts hdrafts hlast =>
      have hsound := foldl_combine_sound sound_empty drafts
      exact ⟨hsound.allowRules_nodup, hsound.allowAssembly⟩

end Open

section Report

variable {a : Analyzer} (engines : Engines) (files : Files) (list : DependencyList)

theorem report_of_no_validator (h : a.generation.validator = none) :
    a.report engines files list = ⟨(a.state.issue? engines).toList, 0⟩ := by
  simp only [Analyzer.report, Analyzer.analyze, Analyzer.analyzeAssemblies, Analyzer.ask,
    Generation.ask, h, Analyzer.unusedIssues]
  exact congrArg (Report.mk · 0) ((List.append_nil _).trans (List.append_nil _))

theorem report_of_validator {p : Policy} (h : a.generation.validator = some { policy := p }) :
    let types := checkOccurrences (isExcluded files a.folder p) 0 { policy := p } list.occurrences
    let assemblies := checkAssemblies types.2 (assembliesOf p list)
    a.report engines files list =
      types.1 ++ assemblies.1 ++ { issues := assemblies.2.unusedIssues } := by
  intro types assemblies
  have hpolicy : types.2.policy = p := checkOccurrences_policy ..
  have hassemblies : assemblies =
      if p.checkAssemblies then checkAssemblies types.2 list.assemblyDependencies
      else ({}, types.2) := by
    simp only [assemblies, assembliesOf]
    split <;> rfl
  rw [hassemblies, ← hpolicy]
  simp only [Analyzer.report, Analyzer.analyze, Analyzer.analyzeAssemblies, Analyzer.ask,
    Generation.ask, h, Analyzer.unusedIssues]
  rfl

theorem reports_enabled {p : Policy} (hvalidator : a.generation.validator = some { policy := p })
    (htypes : p.allowRules.Nodup) (hassemblies : p.allowAssembly.Nodup) :
    Reports engines files a.folder list (.enabled p) (a.report engines files list) := by
  obtain ⟨seen, hseen, hfirst, hsecond, hunused⟩ :=
    passes_fresh htypes hassemblies (isExcluded files a.folder p) list.occurrences
      (assembliesOf p list)
  rw [report_of_validator engines files list hvalidator, hfirst, hsecond, hunused]
  exact .enabled hseen

theorem reports_issue {state : PolicyState} (h : state.policy? = none) (folder : Path) :
    Reports engines files folder list state ⟨(state.issue? engines).toList, 0⟩ := by
  cases state with
  | enabled p => exact absurd h (Option.some_ne_none p)
  | disabled => exact .disabled
  | noFile => exact .noFile
  | failed e => exact .failed e

theorem Reports.unique {folder : Path} {state : PolicyState} {report other : Report}
    (h : Reports engines files folder list state report)
    (hother : Reports engines files folder list state other) : report = other := by
  cases h with
  | noFile | disabled | failed e =>
      cases hother
      rfl
  | enabled hseen =>
      cases hother with
      | enabled hseen' => rw [hseen.unique hseen']

end Report

theorem reports_openFolder (engines : Engines) (files : Files) (folder : Path)
    (depth : Option Nat) (list : DependencyList) :
    let a := Analyzer.openFolder files folder depth
    Reports engines files a.folder list a.state (a.report engines files list) := by
  intro a
  have hvalidator : a.generation.validator = a.state.policy?.map fun policy => { policy } :=
    validator_openFolder files folder depth
  cases hpolicy : a.state.policy? with
  | none =>
      rw [hpolicy] at hvalidator
      rw [report_of_no_validator engines files list hvalidator]
      exact reports_issue engines files list hpolicy a.folder
  | some p =>
      rw [hpolicy] at hvalidator
      have hstate : a.state = .enabled p := policy?_eq_some_iff.mp hpolicy
      obtain ⟨htypes, hassemblies⟩ := nodup_openFolder files folder depth hstate
      rw [hstate]
      exact reports_enabled engines files list hvalidator htypes hassemblies

theorem hasErrors_iff (r : Report) :
    r.hasErrors = true ↔ ∃ issue ∈ r.issues, issue.severity = .error := by
  rw [Report.hasErrors, Report.reaches, List.any_eq_true]
  refine exists_congr fun issue => and_congr_right fun _ => ?_
  cases issue.severity <;> decide

/-- A check that could read its list makes the one report that the state of the folder leaves,
prints it, and fails just when some issue is an error. -/
theorem runCheck_reports (engines : Engines) {files : Files} {dependencies : Path}
    {text : String} {list : DependencyList} (hread : files.text? dependencies = some text)
    (hparse : DependencyList.parse text = .ok list) (folder : Path) (format : OutputFormat) :
    let a := Analyzer.openFolder files folder none
    ∃ report, (∀ r, Reports engines files a.folder list a.state r ↔ r = report) ∧
      Command.runCheck engines files folder dependencies format =
        { exitCode := if ∃ issue ∈ report.issues, issue.severity = .error then 1 else 0
          output := report.print format } := by
  intro a
  have hreport : Reports engines files a.folder list a.state (a.report engines files list) :=
    reports_openFolder engines files folder none list
  refine ⟨a.report engines files list, fun r => ⟨fun h => h.unique _ _ _ hreport, ?_⟩, ?_⟩
  · rintro rfl
    exact hreport
  · simp only [Command.runCheck, hread, hparse, hasErrors_iff]
    rfl

/-- The limit of issues is reached at once, but assemblies and unused rules are still reported. -/
theorem stopped_check_reports :
    let policy := "max_issue_count=0
check_assembly_dependencies=true
allowed-assembly=[\x7bfrom='X',to='Y'\x7d]"
    let text := "\x7b\"types\":[[\"A\",\"S\",\"B\",\"T\"]],\"assemblies\":[[\"Y\",\"X\"]]\x7d"
    let files : Files :=
      { canonical? := some
        fingerprint? := fun p => if p.same ⟨"/nsdepcop.toml"⟩ then some ⟨none, 0⟩ else none
        read := fun p =>
          .ok (Text.Utf8.encode (if p.same ⟨"/deps.json"⟩ then text else policy).toList) }
    let list : DependencyList :=
      { types := [⟨"A", "S", "B", "T", none, none, none⟩], assemblies := [⟨"Y", "X"⟩] }
    let engines : Engines := .plain
    let a := Analyzer.openFolder files ⟨"/"⟩ none
    a.state = .enabled
        { maxIssues := 0, checkAssemblies := true,
          allowAssembly := [⟨.exact ⟨"X"⟩, .exact ⟨"Y"⟩⟩] } ∧
      ∃ report, (∀ r, Reports engines files a.folder list a.state r ↔ r = report) ∧
        Command.runCheck engines files ⟨"/"⟩ ⟨"/deps.json"⟩ .compact =
          { exitCode := if ∃ issue ∈ report.issues, issue.severity = .error then 1 else 0
            output := report.print .compact } := by
  intro policy text files list engines a
  have hread : files.text? ⟨"/deps.json"⟩ = some text := by decide +kernel
  have hparse : DependencyList.parse text = .ok list := by decide +kernel
  exact ⟨by decide +kernel, runCheck_reports engines hread hparse ⟨"/"⟩ .compact⟩

/-- A text that is no document is reported where the engine says and in its words. -/
example :
    let text := "is_enabled = true\n[[allowed]\n"
    let files : Files :=
      { canonical? := some
        fingerprint? := fun p => if p.same ⟨"/nsdepcop.toml"⟩ then some ⟨none, 0⟩ else none
        read := fun _ => .ok (Text.Utf8.encode text.toList) }
    let engines : Engines :=
      { document := fun _ => ⟨some ⟨27, 28⟩, "invalid table header"⟩, expression := fun _ => "" }
    (Analyzer.openFolder files ⟨"/"⟩ none).report engines files {} =
      ⟨[⟨.configError, .error,
        "Error loading config: /nsdepcop.toml:2:10: invalid table header",
        some ⟨"/nsdepcop.toml", 2, 10⟩⟩], 0⟩ := by
  decide +kernel

end NamespacePolicy.Proofs.CheckReport
