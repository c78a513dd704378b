import Mathlib.Data.List.DropRight
import NamespacePolicy.Proofs.ValidatorRuns

/-!
Where rules for types and rules for assemblies say the same.  A policy that shows all types, allows
nothing to relatives and lists the same rules for both kinds gives the same verdict on a pair of
names, whichever kind they are of; and a validator answers and marks rules alike for both kinds,
although each kind has a cache and marks of its own.
-/

namespace NamespacePolicy.Proofs.Coincidence

open Drafts RuleSelection ValidatorRuns Validator

/-- The policy says the same about types and about assemblies. -/
structure Coincides (p : Policy) : Prop where
  visible : ∀ a ∈ p.allow, a.visible = .empty
  members : ∀ entry ∈ p.visibleMembers, entry.2 = .empty
  child : p.childMayUseParent = false
  parent : p.parentMayUseChild = false
  allow : p.allowAssembly = p.allowRules
  disallow : p.disallowAssembly = p.disallow

/-- The names that a dependency between types relates, as if they were assemblies. -/
def namesOf (d : TypeDependency) : AssemblyDependency := ⟨d.sourceNamespace, d.targetNamespace⟩

section Verdicts

variable {p : Policy} (h : Coincides p)

include h

theorem Coincides.visibleThrough_eq_none {a : AllowRule} (ha : a ∈ p.allow) (target : Domain) :
    p.visibleThrough a target = none := by
  rw [Policy.visibleThrough, h.visible a ha]
  refine Option.filter_eq_none_iff.mpr fun types htypes => ?_
  obtain ⟨entry, hentry, rfl⟩ := Option.map_eq_some_iff.mp htypes
  rw [h.members entry (List.mem_of_find?_eq_some hentry)]
  decide

theorem Coincides.verdictOfRule (i : Nat) (d : TypeDependency) :
    p.verdictOfRule i d = ⟨.allowed, some i⟩ := by
  have hnone : (p.allow[i]?).bind (p.visibleThrough · d.targetNamespace) = none := by
    rw [Option.bind_eq_none_iff]
    exact fun a ha => h.visibleThrough_eq_none (List.mem_of_getElem? ha) _
  simp only [Policy.verdictOfRule, hnone]

theorem Coincides.typeVerdict (d : TypeDependency) :
    p.typeVerdict d = p.assemblyVerdict (namesOf d) := by
  by_cases hsame : d.sourceNamespace = d.targetNamespace
  · rw [typeVerdict_of_isInternal p (decide_eq_true hsame),
      assemblyVerdict_of_isInternal p (d := namesOf d) (decide_eq_true hsame)]
  · simp only [Policy.typeVerdict, Policy.assemblyVerdict, AssemblyDependency.isInternal, namesOf,
      h.child, h.parent, h.allow, h.disallow, h.verdictOfRule, hsame, decide_false,
      Bool.false_and, Bool.false_eq_true, if_false]

end Verdicts

theorem run_snoc (r : Reference) (calls : List Call) (call : Call) :
    (r.run (calls ++ [call])).2 = ((r.run calls).2.answer call).2 := by
  induction calls generalizing r with
  | nil => rfl
  | cons first rest ih => exact ih (r.answer first).2

section Answers

variable (edits : List Edit) (calls : List Call)

theorem simulates_run_ofEdits :
    let p := (Draft.ofEdits edits).complete
    Simulates (Validator.run { policy := p } calls).2 (Reference.run { policy := p } calls).2 :=
  ((simulates_fresh _).run (sound_ofEdits edits).allowRules_nodup
    (sound_ofEdits edits).allowAssembly calls).2

/-- After any calls, a check between types gives the status that the policy gives. -/
theorem checkType_run (d : TypeDependency) :
    let p := (Draft.ofEdits edits).complete
    ((Validator.run { policy := p } calls).2.checkType d).1 = (p.typeVerdict d).status := by
  intro p
  have hstatus := ((simulates_run_ofEdits edits calls).checkType d).1
  rwa [Reference.checkType, run_policy] at hstatus

theorem checkAssembly_run (d : AssemblyDependency) :
    let p := (Draft.ofEdits edits).complete
    ((Validator.run { policy := p } calls).2.checkAssembly d).1 = (p.assemblyVerdict d).status := by
  intro p
  have hstatus := ((simulates_run_ofEdits edits calls).checkAssembly d).1
  rwa [Reference.checkAssembly, run_policy] at hstatus

end Answers

/-- The calls after the last reset. -/
def sinceReset (calls : List Call) : List Call := calls.rtakeWhile (· ≠ .resetUsage)

/-- The names that a call checks as names of namespaces. -/
def typeNames? : Call → Option AssemblyDependency
  | .checkType d => some (namesOf d)
  | .allowsType sn st tn tt => some (namesOf (.ofSymbols sn st tn tt))
  | _ => none

def assemblyNames? : Call → Option AssemblyDependency
  | .checkAssembly d => some d
  | _ => none

/-- Since the last reset, the same names were checked for both kinds, in whatever order and however
often. -/
def CheckedAlike (calls : List Call) : Prop :=
  ∀ names, names ∈ (sinceReset calls).filterMap typeNames? ↔
    names ∈ (sinceReset calls).filterMap assemblyNames?

theorem sinceReset_snoc (calls : List Call) (call : Call) :
    sinceReset (calls ++ [call]) =
      if call = .resetUsage then [] else sinceReset calls ++ [call] := by
  rw [sinceReset, List.rtakeWhile_concat]
  by_cases hreset : call = .resetUsage <;> simp [hreset, sinceReset]

section Selected

variable {p : Policy}

theorem mem_selectedTypes_answer_iff (h : Coincides p) {r : Reference} (hr : r.policy = p)
    (call : Call) (i : Nat) :
    i ∈ (r.answer call).2.selectedTypes ↔ call ≠ .resetUsage ∧
      (i ∈ r.selectedTypes ∨
        ∃ names, typeNames? call = some names ∧ (p.assemblyVerdict names).rule = some i) := by
  cases call <;> simp [Reference.answer, Reference.checkType, Reference.checkAssembly, typeNames?,
    hr, h.typeVerdict, or_comm]

theorem mem_selectedAssemblies_answer_iff {r : Reference} (hr : r.policy = p) (call : Call)
    (i : Nat) :
    i ∈ (r.answer call).2.selectedAssemblies ↔ call ≠ .resetUsage ∧
      (i ∈ r.selectedAssemblies ∨
        ∃ names, assemblyNames? call = some names ∧
          (p.assemblyVerdict names).rule = some i) := by
  cases call <;> simp [Reference.answer, Reference.checkType, Reference.checkAssembly,
    assemblyNames?, hr, or_comm]

/-- What is selected for one kind after a run, from what each call selects. -/
theorem mem_selected_run_iff (selected : Reference → List Nat)
    (names? : Call → Option AssemblyDependency) (hfresh : selected { policy := p } = [])
    (hanswer : ∀ {r : Reference}, r.policy = p → ∀ call i,
      (i ∈ selected (r.answer call).2 ↔ call ≠ .resetUsage ∧
        (i ∈ selected r ∨
          ∃ names, names? call = some names ∧ (p.assemblyVerdict names).rule = some i)))
    (calls : List Call) (i : Nat) :
    i ∈ selected (Reference.run { policy := p } calls).2 ↔
      ∃ names ∈ (sinceReset calls).filterMap names?, (p.assemblyVerdict names).rule = some i := by
  induction calls using List.reverseRecOn with
  | nil => simp [Reference.run, sinceReset, hfresh]
  | append_singleton calls call ih =>
      rw [run_snoc, hanswer (run_policy ..), sinceReset_snoc, ih]
      by_cases hreset : call = .resetUsage
      · simp [hreset]
      · rw [if_neg hreset, List.filterMap_append]
        simp only [List.mem_append, or_and_right, exists_or, hreset, ne_eq, not_false_eq_true,
          true_and]
        simp only [List.mem_filterMap, List.mem_singleton, exists_eq_left]

end Selected

theorem unusedRules_run (edits : List Edit) (h : Coincides (Draft.ofEdits edits).complete)
    {calls : List Call} (hcalls : CheckedAlike calls) :
    let v := (Validator.run { policy := (Draft.ofEdits edits).complete } calls).2
    v.unusedTypeRules = v.unusedAssemblyRules := by
  intro v
  have hsound := sound_ofEdits edits
  have hsim := simulates_run_ofEdits edits calls
  have htypes := hsim.types
  have hassemblies := hsim.assemblies
  rw [run_policy] at htypes hassemblies
  rw [unusedTypeRules, unusedAssemblyRules, hsim.policy, run_policy,
    htypes.filter_eq_unselected hsound.allowRules_nodup,
    hassemblies.filter_eq_unselected hsound.allowAssembly, h.allow]
  apply unselected_congr
  intro i
  rw [mem_selected_run_iff (·.selectedTypes) typeNames? rfl (mem_selectedTypes_answer_iff h),
    mem_selected_run_iff (·.selectedAssemblies) assemblyNames? rfl
      mem_selectedAssemblies_answer_iff]
  exact exists_congr fun names => and_congr_left' (hcalls names)

/-- Where the rules of a draft's policy say the same of both kinds, so does every verdict.  In every
run a pair of names has one status, whichever kind it is checked for and whatever the types are
called, and names checked alike leave the same rules unused. -/
theorem kinds_agree (edits : List Edit) (h : Coincides (Draft.ofEdits edits).complete) :
    let p := (Draft.ofEdits edits).complete
    (∀ (source target : Domain) (sourceType targetType : String),
      p.typeVerdict ⟨source, sourceType, target, targetType⟩ =
        p.assemblyVerdict ⟨source, target⟩) ∧
    ∀ calls : List Call,
      let run := Validator.run { policy := p } calls
      (∀ (i j : Nat) (d : TypeDependency),
        calls[i]? = some (.checkType d) → calls[j]? = some (.checkAssembly (namesOf d)) →
          ∃ status, run.1[i]? = some (.status status) ∧ run.1[j]? = some (.status status)) ∧
      (CheckedAlike calls → run.2.unusedTypeRules = run.2.unusedAssemblyRules) := by
  intro p
  refine ⟨fun source target sourceType targetType => h.typeVerdict _, fun calls => ⟨?_, ?_⟩⟩
  · intro i j d hi hj
    refine ⟨(p.assemblyVerdict (namesOf d)).status, ?_, ?_⟩
    · rw [getElem?_run, hi, ← h.typeVerdict, ← checkType_run edits (calls.take i) d]
      rfl
    · rw [getElem?_run, hj, ← checkAssembly_run edits (calls.take j) (namesOf d)]
      rfl
  · exact unusedRules_run edits h

/-- Checks names once for either kind. -/
def bothWays (sourceType targetType : String) (names : AssemblyDependency) : List Call :=
  [.checkType ⟨names.source, sourceType, names.target, targetType⟩, .checkAssembly names]

theorem checkedAlike_bothWays (sourceType targetType : String)
    (sequence : List AssemblyDependency) :
    CheckedAlike (sequence.flatMap (bothWays sourceType targetType)) := by
  have hreset : sinceReset (sequence.flatMap (bothWays sourceType targetType)) =
      sequence.flatMap (bothWays sourceType targetType) := by
    rw [sinceReset, List.rtakeWhile_eq_self_iff]
    intro call hcall
    obtain ⟨names, -, hnames⟩ := List.mem_flatMap.mp hcall
    rcases List.mem_pair.mp hnames with rfl | rfl <;> rfl
  intro names
  rw [hreset, List.filterMap_flatMap, List.filterMap_flatMap]
  rfl

/-- Three pairs of names, one of them checked twice, for a policy with a tie and a rule that is never
decisive. -/
theorem checked_both_ways_agree :
    let any : Pattern := .tree ⟨.global⟩
    let rules : List Rule :=
      [⟨.exact ⟨"A"⟩, any⟩, ⟨any, .exact ⟨"B"⟩⟩, ⟨.exact ⟨"A"⟩, .tree ⟨⟨"B"⟩⟩⟩]
    let edits := rules.map (Edit.addAllow · .empty) ++ rules.map Edit.addAllowAssembly ++
      [.addVisible ⟨"B"⟩ .empty, .addDisallow ⟨.exact ⟨"C"⟩, any⟩,
        .addDisallowAssembly ⟨.exact ⟨"C"⟩, any⟩]
    let sequence : List AssemblyDependency :=
      [⟨⟨"A"⟩, ⟨"B"⟩⟩, ⟨⟨"C"⟩, ⟨"B"⟩⟩, ⟨⟨"A"⟩, ⟨"B"⟩⟩, ⟨⟨"B"⟩, ⟨"A"⟩⟩]
    let p := (Draft.ofEdits edits).complete
    let v := (Validator.run { policy := p } (sequence.flatMap (bothWays "S" "T"))).2
    Coincides p ∧ v.unusedTypeRules = v.unusedAssemblyRules := by
  intro any rules edits sequence p v
  have hp : Coincides p := ⟨by decide, by decide, by decide, by decide, by decide, by decide⟩
  exact ⟨hp, ((kinds_agree edits hp).2 _).2 (checkedAlike_bothWays "S" "T" sequence)⟩

end NamespacePolicy.Proofs.Coincidence
