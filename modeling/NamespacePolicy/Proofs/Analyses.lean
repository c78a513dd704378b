import NamespacePolicy.Proofs.Generations
import NamespacePolicy.Proofs.Passes

/-!
Analyses by an analyzer that was used before.  Whatever it was used for, its validator only
remembers what the policy says, so an analysis reports what the policy says of the occurrences that
are not in excluded files: all that is illegal, or as much of it as the policy allows and that
there is more.
-/

namespace NamespacePolicy.Proofs.Analyses

open Generations Passes ValidatorRuns

/-- What can be done with an analyzer.  The files may be others each time. -/
inductive Use where
  | refresh (files : Files)
  | analyze (engines : Engines) (files : Files) (occurrences : List Occurrence)
  | analyzeAssemblies (dependencies : List AssemblyDependency)
  /-- A question to the validator of the generation with this number. -/
  | ask (number : Nat) (call : Validator.Call)

def Use.on (a : Analyzer) : Use → Analyzer
  | refresh files => (a.refresh files).1
  | analyze engines files occurrences => (a.analyze engines files occurrences).2
  | analyzeAssemblies dependencies => (a.analyzeAssemblies dependencies).2
  | ask number call => (a.askIn number fun v => v.answer call).2

def Use.all (a : Analyzer) (uses : List Use) : Analyzer := uses.foldl Use.on a

/-- With an enabled policy there is a validator that goes with a reference for it. -/
def Faithful (g : Generation) : Prop :=
  ∀ p, g.state = .enabled p → ∃ v r, g.validator = some v ∧ Simulates v r ∧ r.policy = p

theorem faithful_ofState (number : Nat) (state : PolicyState) :
    Faithful (.ofState number state) := by
  rintro p rfl
  exact ⟨{ policy := p }, { policy := p }, rfl, simulates_fresh p, rfl⟩

section Question

variable {α : Type} {question : Validator → α × Validator}

/-- After the question the validator goes with a reference for the same policy. -/
def StaysFaithful (question : Validator → α × Validator) : Prop :=
  ∀ v r, Simulates v r → ∃ r', Simulates (question v).2 r' ∧ r'.policy = r.policy

theorem faithful_ask {g : Generation} (h : Faithful g) (hquestion : StaysFaithful question) :
    Faithful (g.ask question).2 := by
  cases hvalidator : g.validator with
  | none =>
      rw [Generation.ask, hvalidator]
      exact h
  | some v =>
      intro p hp
      rw [Generation.ask, hvalidator] at hp ⊢
      obtain ⟨v', r, hv, hsimulates, hpolicy⟩ := h p hp
      obtain rfl : v = v' := Option.some.inj (hvalidator.symm.trans hv)
      obtain ⟨r', hnext, hsame⟩ := hquestion v r hsimulates
      exact ⟨(question v).2, r', rfl, hnext, hsame.trans hpolicy⟩

end Question

theorem staysFaithful_answer (call : Validator.Call) : StaysFaithful fun v => v.answer call :=
  fun _ r h => ⟨(r.answer call).2, h.answer_snd call, answer_policy r call⟩

theorem staysFaithful_checkAssemblies (dependencies : List AssemblyDependency) :
    StaysFaithful fun v =>
      if v.policy.checkAssemblies then checkAssemblies v dependencies else ({}, v) := by
  intro v r h
  dsimp only
  split
  · exact ⟨_, (checkAssemblies_run h dependencies).2, run_policy ..⟩
  · exact ⟨r, h, rfl⟩

/-- A pass goes over what is not excluded and begins with no issue reported. -/
theorem checkOccurrences_excluding {v : Validator} {r : Reference} (h : Simulates v r)
    (isExcluded : Option Location → Bool) (occurrences : List Occurrence) :
    let xs := occurrences.filter fun o => !isExcluded o.location
    let pass := checkOccurrences isExcluded 0 v occurrences
    ∃ seen, Examined r.policy r.policy.maxIssues xs seen ∧
      pass.1 = ⟨limited r.policy r.policy.maxIssues (offences r.policy xs), seen.length⟩ ∧
      Simulates pass.2 (r.run (seen.map fun o => .checkType o.dependency)).2 := by
  intro xs pass
  have hpass : pass = checkOccurrences (fun _ => false) 0 v xs := checkOccurrences_eq_filter ..
  rw [hpass]
  exact checkOccurrences_run h (Nat.zero_add _) xs

theorem staysFaithful_checkOccurrences (files : Files) (folder : Path)
    (occurrences : List Occurrence) :
    StaysFaithful fun v =>
      checkOccurrences (isExcluded files folder v.policy) 0 v occurrences := by
  intro v r h
  obtain ⟨seen, -, -, hsimulates⟩ :=
    checkOccurrences_excluding h (isExcluded files folder v.policy) occurrences
  exact ⟨_, hsimulates, run_policy ..⟩

theorem faithful_on {a : Analyzer} (h : Faithful a.generation) (use : Use) :
    Faithful (use.on a).generation := by
  cases use with
  | refresh files =>
      rcases refresh_cases a files with ⟨ha, -⟩ | ⟨hierarchy, -, ha⟩
      · rw [Use.on, ha]
        exact h
      · rw [Use.on, ha]
        exact faithful_ofState _ _
  | analyze engines files occurrences =>
      exact faithful_ask h (staysFaithful_checkOccurrences files a.folder occurrences)
  | analyzeAssemblies dependencies =>
      exact faithful_ask h (staysFaithful_checkAssemblies dependencies)
  | ask number call =>
      rw [Use.on, Analyzer.askIn]
      split
      · exact faithful_ask h (staysFaithful_answer call)
      · exact h

theorem faithful_all {a : Analyzer} (h : Faithful a.generation) (uses : List Use) :
    Faithful (Use.all a uses).generation := by
  induction uses generalizing a with
  | nil => exact h
  | cons use rest ih => exact ih (faithful_on h use)

theorem faithful_openFolder (files : Files) (folder : Path) (depth : Option Nat) :
    Faithful (Analyzer.openFolder files folder depth).generation :=
  faithful_on (a := _) (faithful_ofState 0 .noFile) (.refresh files)

theorem offences_eq (p : Policy) (xs : List Occurrence) :
    offences p xs = (xs.filter (isIllegal p)).map (illegalIssue p) := by
  induction xs with
  | nil => rfl
  | cons o rest ih =>
      rw [offences_cons, ih, offence?, List.filter_cons]
      split <;> rfl

theorem length_offences (p : Policy) (xs : List Occurrence) :
    (offences p xs).length = (xs.filter (isIllegal p)).length := by
  rw [offences_eq, List.length_map]

section Analyze

variable {a : Analyzer} {p : Policy} (engines : Engines) (files : Files)
  (occurrences : List Occurrence)

theorem analyze_of_validator {v : Validator} (hv : a.generation.validator = some v) :
    a.analyze engines files occurrences =
      let pass := checkOccurrences (isExcluded files a.folder v.policy) 0 v occurrences
      (pass.1, { a with generation := { a.generation with validator := some pass.2 } }) := by
  simp only [Analyzer.analyze, Analyzer.ask, Generation.ask, hv, Option.getD_some]

theorem analyze_of_faithful (h : Faithful a.generation) (hp : a.state = .enabled p) :
    let xs := occurrences.filter fun o => !isExcluded files a.folder p o.location
    ∃ seen, Examined p p.maxIssues xs seen ∧
      (a.analyze engines files occurrences).1 =
        ⟨limited p p.maxIssues (offences p xs), seen.length⟩ := by
  obtain ⟨v, r, hv, hsimulates, rfl⟩ := h p hp
  rw [analyze_of_validator engines files occurrences hv, hsimulates.policy]
  obtain ⟨seen, hseen, hreport, -⟩ :=
    checkOccurrences_excluding hsimulates (isExcluded files a.folder r.policy) occurrences
  exact ⟨seen, hseen, hreport⟩

/-- Occurrences in excluded files leave no trace, neither in the report nor in the analyzer. -/
theorem analyze_filter (h : Faithful a.generation) (hp : a.state = .enabled p) :
    a.analyze engines files
        (occurrences.filter fun o => !isExcluded files a.folder p o.location) =
      a.analyze engines files occurrences := by
  obtain ⟨v, r, hv, hsimulates, rfl⟩ := h p hp
  rw [analyze_of_validator engines files _ hv, analyze_of_validator engines files _ hv,
    hsimulates.policy, checkOccurrences_eq_filter, checkOccurrences_eq_filter _ _ _ occurrences,
    List.filter_filter]
  simp only [Bool.and_self]

end Analyze

/-- With an enabled policy, whatever the analyzer was used for since it was opened, an analysis
looks at the occurrences that are not in excluded files.  It reports all illegal ones, or as many
as the policy allows and that it stopped at the one after these. -/
theorem analyze_reports_illegal (folder : Path) (depth : Option Nat) (files : Files)
    (uses : List Use) {p : Policy}
    (hp : (Use.all (.openFolder files folder depth) uses).state = .enabled p)
    (engines : Engines) (current : Files) (occurrences : List Occurrence) :
    let a := Use.all (.openFolder files folder depth) uses
    let xs := occurrences.filter fun o => !isExcluded current a.folder p o.location
    let illegal := xs.filter (isIllegal p)
    let report := (a.analyze engines current occurrences).1
    (illegal.length ≤ p.maxIssues →
        report = ⟨illegal.map (illegalIssue p), xs.length⟩) ∧
      (p.maxIssues < illegal.length →
        ∃ before last after, xs = before ++ last :: after ∧ isIllegal p last = true ∧
          (before.filter (isIllegal p)).length = p.maxIssues ∧
          report = ⟨(illegal.take p.maxIssues).map (illegalIssue p) ++ [limitNotice p],
            before.length + 1⟩) ∧
      a.analyze engines current xs = a.analyze engines current occurrences := by
  intro a xs illegal report
  have hfaithful : Faithful a.generation :=
    faithful_all (faithful_openFolder files folder depth) uses
  obtain ⟨seen, hseen, hreport⟩ := analyze_of_faithful engines current occurrences hfaithful hp
  have hlength : (offences p xs).length = illegal.length := length_offences p xs
  refine ⟨?_, ?_, analyze_filter engines current occurrences hfaithful hp⟩
  · intro hfew
    have hall : seen = xs := hseen.whole (hlength ▸ hfew)
    rw [show report = _ from hreport, hall, limited, if_pos (hlength ▸ hfew), offences_eq]
  · intro hmany
    obtain ⟨before, last, rfl, hlast, hbefore⟩ := hseen.stopped (hlength ▸ hmany)
    obtain ⟨after, hafter⟩ := hseen.leads
    refine ⟨before, last, after, ?_, isIllegal_of_offence hlast, ?_, ?_⟩
    · exact hafter.symm.trans (List.append_cons ..).symm
    · rw [← length_offences, hbefore]
    · rw [show report = _ from hreport, limited, if_neg (hlength ▸ Nat.not_le.mpr hmany),
        offences_eq, ← List.map_take, List.length_append, List.length_singleton]

/-- Earlier questions and illegal dependencies in excluded files make no difference: the second
illegal dependency elsewhere ends the analysis. -/
theorem second_illegal_stops :
    let text := "max_issue_count=1
excluded_files=['gen/**']
allowed=[\x7bfrom='A',to='B'\x7d]"
    let files : Files :=
      { canonical? := some
        fingerprint? := fun p => if p.same ⟨"/nsdepcop.toml"⟩ then some ⟨none, 0⟩ else none
        read := fun _ => .ok (Text.Utf8.encode text.toList) }
    let p : Policy :=
      { maxIssues := 1
        excluded := [⟨"gen/**", [.char 'g', .char 'e', .char 'n', .char '/', .anyComponents]⟩]
        allow := [⟨⟨.exact ⟨"A"⟩, .exact ⟨"B"⟩⟩, .empty⟩] }
    let within (file source target : String) : Occurrence :=
      ⟨⟨⟨source⟩, "S", ⟨target⟩, "T"⟩, some ⟨file, 1, 1⟩⟩
    let xs := [within "/x.cs" "C" "D", within "/x.cs" "A" "B", within "/x.cs" "D" "C",
      within "/x.cs" "C" "A"]
    let engines : Engines := .plain
    let uses : List Use :=
      [.analyze engines files xs, .ask 1 (.checkType ⟨⟨"D"⟩, "S", ⟨"C"⟩, "T"⟩), .refresh files]
    let a := Use.all (.openFolder files ⟨"/"⟩ none) uses
    let occurrences := within "/gen/x.cs" "C" "D" :: xs.take 2 ++
      within "gen/y.cs" "D" "C" :: xs.drop 2
    a.state = .enabled p ∧
      ∃ before last after, xs = before ++ last :: after ∧ isIllegal p last = true ∧
        (before.filter (isIllegal p)).length = p.maxIssues ∧
        (a.analyze engines files occurrences).1 =
          ⟨((xs.filter (isIllegal p)).take p.maxIssues).map (illegalIssue p) ++ [limitNotice p],
            before.length + 1⟩ := by
  intro text files p within xs engines uses a occurrences
  have hp : a.state = .enabled p := by decide +kernel
  have hmany : p.maxIssues < (xs.filter (isIllegal p)).length := by decide +kernel
  have hcounted : occurrences.filter (fun o => !isExcluded files a.folder p o.location) = xs := by
    decide +kernel
  obtain ⟨-, hstops, -⟩ :=
    analyze_reports_illegal ⟨"/"⟩ none files uses hp engines files occurrences
  rw [hcounted] at hstops
  exact ⟨hp, hstops hmany⟩

end NamespacePolicy.Proofs.Analyses
