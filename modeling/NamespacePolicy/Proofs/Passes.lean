import NamespacePolicy.Analyzer
import NamespacePolicy.Proofs.ValidatorRuns

/-!
The passes of a check.  One goes over the occurrences that are not in excluded files and ends with
the first offence after as many issues as the policy allows; the other goes over all assemblies.
What a pass reports is what the policy says of each dependency, whatever the validator remembers
from before, and the rules it selects are those of the dependencies that it counts.
-/

namespace NamespacePolicy.Proofs.Passes

open ValidatorRuns

def isIllegal (p : Policy) (o : Occurrence) : Bool :=
  (p.typeVerdict o.dependency).status ≠ .allowed

/-- What is said of a dependency that has a status and is not allowed. -/
def complaint (d : TypeDependency) : Status → String
  | .hidden visible =>
      "Illegal namespace reference: " ++ d.text ++ ". Visible types in " ++
        d.targetNamespace.text ++ ": " ++ visible.text
  | _ => "Illegal namespace reference: " ++ d.text

/-- The issue about an illegal occurrence. -/
def illegalIssue (p : Policy) (o : Occurrence) : Issue :=
  { kind := .illegalDependency
    severity := p.dependencySeverity
    message := complaint o.dependency (p.typeVerdict o.dependency).status
    location := o.location }

/-- The issue about an occurrence, if the policy does not allow it. -/
def offence? (p : Policy) (o : Occurrence) : Option Issue :=
  if isIllegal p o then some (illegalIssue p o) else none

def offences (p : Policy) (occurrences : List Occurrence) : List Issue :=
  occurrences.filterMap (offence? p)

/-- The issue that says that there are more issues. -/
def limitNotice (p : Policy) : Issue :=
  { kind := .tooManyIssues
    severity := p.limitSeverity
    message := "Too many issues, analysis stopped after " ++ toString p.maxIssues ++
      " reported issues" }

/-- The first issues up to a limit; if there are more, a last one says so. -/
def limited (p : Policy) (limit : Nat) (issues : List Issue) : List Issue :=
  if issues.length ≤ limit then issues else issues.take limit ++ [limitNotice p]

/-- The occurrences that are looked at: all of them, or those up to the first offence over the
limit. -/
structure Examined (p : Policy) (limit : Nat) (occurrences seen : List Occurrence) : Prop where
  leads : seen <+: occurrences
  whole : (offences p occurrences).length ≤ limit → seen = occurrences
  stopped : limit < (offences p occurrences).length →
    ∃ before last, seen = before ++ [last] ∧ (offence? p last).isSome ∧
      (offences p before).length = limit

/-- The issue about a dependency between assemblies, if the policy does not allow it. -/
def assemblyOffence? (p : Policy) (d : AssemblyDependency) : Option Issue :=
  if (p.assemblyVerdict d).status = .allowed then none
  else some { kind := .illegalAssemblyDependency, severity := p.dependencySeverity,
              message := "Illegal assembly reference: " ++ d.text }

def unusedIssue (rule : Rule) : Issue :=
  { kind := .unusedAllowRule, severity := .info,
    message := "Allow rule `" ++ rule.text ++ "` was not used" }

/-- The indices of the rules that decide occurrences. -/
def selectedTypes (p : Policy) (occurrences : List Occurrence) : List Nat :=
  occurrences.filterMap fun o => (p.typeVerdict o.dependency).rule

def selectedAssemblies (p : Policy) (dependencies : List AssemblyDependency) : List Nat :=
  dependencies.filterMap fun d => (p.assemblyVerdict d).rule

/-- The allow rules that decide none of the dependencies, in the order of the policy.  Those for
assemblies only count if assemblies are checked. -/
def unusedRules (p : Policy) (occurrences : List Occurrence)
    (dependencies : List AssemblyDependency) : List Rule :=
  Reference.unselected p.allowRules (selectedTypes p occurrences) ++
    if p.checkAssemblies then
      Reference.unselected p.allowAssembly (selectedAssemblies p dependencies)
    else []

theorem isAllowed_eq_true_iff {status : Status} : status.isAllowed = true ↔ status = .allowed := by
  cases status <;> simp [Status.isAllowed]

theorem isIllegal_of_offence {p : Policy} {o : Occurrence} (h : (offence? p o).isSome) :
    isIllegal p o = true := by
  by_contra hlegal
  rw [offence?, if_neg hlegal] at h
  exact Bool.false_ne_true h

theorem filterMap_cons_toList {α β : Type} (f : α → Option β) (x : α) (rest : List α) :
    (x :: rest).filterMap f = (f x).toList ++ rest.filterMap f := by
  rw [List.filterMap_cons]
  cases f x <;> rfl

theorem offences_cons (p : Policy) (o : Occurrence) (rest : List Occurrence) :
    offences p (o :: rest) = (offence? p o).toList ++ offences p rest :=
  filterMap_cons_toList ..

theorem offences_append (p : Policy) (before after : List Occurrence) :
    offences p (before ++ after) = offences p before ++ offences p after :=
  List.filterMap_append

theorem limited_append (p : Policy) (limit : Nat) (first issues : List Issue) :
    limited p (limit + first.length) (first ++ issues) = first ++ limited p limit issues := by
  have hlength : (first ++ issues).length ≤ limit + first.length ↔ issues.length ≤ limit := by
    rw [List.length_append]
    omega
  by_cases hlimit : issues.length ≤ limit
  · rw [limited, if_pos (hlength.mpr hlimit), limited, if_pos hlimit]
  · rw [limited, if_neg (mt hlength.mp hlimit), limited, if_neg hlimit, Nat.add_comm,
      List.take_length_add_append, List.append_assoc]

section Examined

variable {p : Policy} {limit : Nat} {occurrences seen : List Occurrence}

theorem examined_nil : Examined p limit [] [] :=
  ⟨List.prefix_refl _, fun _ => rfl, fun h => absurd h (Nat.not_lt_zero _)⟩

theorem examined_stop {o : Occurrence} (h : (offence? p o).isSome) (rest : List Occurrence) :
    Examined p 0 (o :: rest) [o] := by
  have hsome : (offences p (o :: rest)).length ≠ 0 := by
    obtain ⟨issue, hissue⟩ := Option.isSome_iff_exists.mp h
    simp [offences_cons, hissue]
  exact ⟨⟨rest, rfl⟩, fun hnone => absurd (Nat.le_zero.mp hnone) hsome,
    fun _ => ⟨[], o, rfl, h, rfl⟩⟩

theorem Examined.cons (h : Examined p limit occurrences seen) (o : Occurrence) :
    Examined p (limit + (offence? p o).toList.length) (o :: occurrences) (o :: seen) := by
  have hlength : ∀ others, (offences p (o :: others)).length =
      (offence? p o).toList.length + (offences p others).length := by
    intro others
    rw [offences_cons, List.length_append]
  refine ⟨List.prefix_cons_inj o |>.mpr h.leads, ?_, ?_⟩
  · intro hall
    rw [hlength] at hall
    rw [h.whole (by omega)]
  · intro hmore
    rw [hlength] at hmore
    obtain ⟨before, last, rfl, hlast, hbefore⟩ := h.stopped (by omega)
    refine ⟨o :: before, last, rfl, hlast, ?_⟩
    rw [hlength, hbefore, Nat.add_comm]

theorem Examined.length_offences (h : Examined p limit occurrences seen)
    (hmore : limit < (offences p occurrences).length) : (offences p seen).length = limit + 1 := by
  obtain ⟨before, last, rfl, hlast, hbefore⟩ := h.stopped hmore
  obtain ⟨issue, hissue⟩ := Option.isSome_iff_exists.mp hlast
  rw [offences_append, List.length_append, hbefore]
  simp [offences, hissue]

/-- Of two passes that were stopped neither goes on where the other one stopped. -/
theorem Examined.length_le_of_stopped {others : List Occurrence}
    (h : Examined p limit occurrences seen) (hothers : Examined p limit occurrences others)
    (hmore : limit < (offences p occurrences).length) : seen.length ≤ others.length := by
  obtain ⟨before, last, rfl, -, hbefore⟩ := h.stopped hmore
  have hleads : before <+: occurrences := (List.prefix_append _ _).trans h.leads
  rw [List.length_append, List.length_singleton, Nat.succ_le_iff]
  by_contra hshorter
  obtain ⟨after, rfl⟩ : others <+: before :=
    List.prefix_of_prefix_length_le hothers.leads hleads (not_lt.mp hshorter)
  rw [offences_append, List.length_append, hothers.length_offences hmore] at hbefore
  omega

theorem Examined.unique {others : List Occurrence} (h : Examined p limit occurrences seen)
    (hothers : Examined p limit occurrences others) : seen = others := by
  by_cases hmore : limit < (offences p occurrences).length
  · have hlength : seen.length = others.length :=
      le_antisymm (h.length_le_of_stopped hothers hmore) (hothers.length_le_of_stopped h hmore)
    exact (List.prefix_of_prefix_length_le h.leads hothers.leads hlength.le).eq_of_length hlength
  · rw [h.whole (by omega), hothers.whole (by omega)]

end Examined

/-- Occurrences in excluded files are as good as absent. -/
theorem checkOccurrences_eq_filter (isExcluded : Option Location → Bool) (reported : Nat)
    (v : Validator) (occurrences : List Occurrence) :
    checkOccurrences isExcluded reported v occurrences =
      checkOccurrences (fun _ => false) reported v
        (occurrences.filter fun o => !isExcluded o.location) := by
  induction occurrences generalizing reported v with
  | nil => rfl
  | cons o rest ih =>
      by_cases hexcluded : isExcluded o.location = true
      · rw [List.filter_cons_of_neg (by simp [hexcluded]), ← ih, checkOccurrences,
          if_pos hexcluded]
      · rw [List.filter_cons_of_pos (by simp [hexcluded]), checkOccurrences,
          if_neg hexcluded, checkOccurrences]
        simp only [ih, Bool.false_eq_true, if_false]

/-- A pass finds fault with what is not allowed, and with nothing else. -/
theorem illegalMessage?_eq (p : Policy) (o : Occurrence) :
    illegalMessage? o.dependency (p.typeVerdict o.dependency).status =
      if isIllegal p o then some (complaint o.dependency (p.typeVerdict o.dependency).status)
      else none := by
  rw [isIllegal]
  cases (p.typeVerdict o.dependency).status <;> rfl

section Step

variable {v : Validator} {r : Reference} (h : Simulates v r) (o : Occurrence)
  (rest : List Occurrence)

include h

theorem checkOccurrences_goes_on {reported : Nat}
    (hon : (offence? r.policy o).isSome → reported ≠ r.policy.maxIssues) :
    let issues := (offence? r.policy o).toList
    let pass := checkOccurrences (fun _ => false) (reported + issues.length)
      (v.checkType o.dependency).2 rest
    checkOccurrences (fun _ => false) reported v (o :: rest) =
      ({ issues, checked := 1 } ++ pass.1, pass.2) := by
  intro issues pass
  obtain ⟨hstatus, hnext⟩ := h.checkType o.dependency
  have hpolicy : (v.checkType o.dependency).2.policy = r.policy := hnext.policy
  have hmessage := illegalMessage?_eq r.policy o
  have hverdict : (r.policy.typeVerdict o.dependency).status = (v.checkType o.dependency).1 :=
    hstatus.symm
  simp only [checkOccurrences, Bool.false_eq_true, if_false, ← hverdict, hpolicy, hmessage]
  by_cases hillegal : isIllegal r.policy o = true
  · have hoffence : offence? r.policy o = some (illegalIssue r.policy o) := if_pos hillegal
    have hroom : reported ≠ r.policy.maxIssues := hon (by rw [hoffence]; rfl)
    simp only [if_pos hillegal, if_neg hroom, issues, pass, hoffence]
    rfl
  · have hoffence : offence? r.policy o = none := if_neg hillegal
    simp only [if_neg hillegal, issues, pass, hoffence]
    rfl

theorem checkOccurrences_stops (hoffence : (offence? r.policy o).isSome) :
    checkOccurrences (fun _ => false) r.policy.maxIssues v (o :: rest) =
      ({ issues := [limitNotice r.policy], checked := 1 }, (v.checkType o.dependency).2) := by
  obtain ⟨hstatus, hnext⟩ := h.checkType o.dependency
  have hpolicy : (v.checkType o.dependency).2.policy = r.policy := hnext.policy
  have hillegal : isIllegal r.policy o = true := isIllegal_of_offence hoffence
  have hmessage := illegalMessage?_eq r.policy o
  have hverdict : (r.policy.typeVerdict o.dependency).status = (v.checkType o.dependency).1 :=
    hstatus.symm
  simp only [checkOccurrences, Bool.false_eq_true, if_false, ← hverdict, hpolicy, hmessage,
    if_pos hillegal, if_true]
  rfl

end Step

/-- Where a validator goes with a reference and so many more issues may be reported, a pass reports
the offences up to that limit.  The validator then goes with the reference after the checks of what
was looked at. -/
theorem checkOccurrences_run {v : Validator} {r : Reference} (h : Simulates v r)
    {reported left : Nat} (hleft : reported + left = r.policy.maxIssues)
    (occurrences : List Occurrence) :
    let pass := checkOccurrences (fun _ => false) reported v occurrences
    ∃ seen, Examined r.policy left occurrences seen ∧
      pass.1 = ⟨limited r.policy left (offences r.policy occurrences), seen.length⟩ ∧
      Simulates pass.2 (r.run (seen.map fun o => .checkType o.dependency)).2 := by
  induction occurrences generalizing reported left v r with
  | nil => exact ⟨[], examined_nil, rfl, h⟩
  | cons o rest ih =>
      intro pass
      have hnext : Simulates (v.checkType o.dependency).2 (r.checkType o.dependency).2 :=
        (h.checkType o.dependency).2
      by_cases hstop : (offence? r.policy o).isSome ∧ reported = r.policy.maxIssues
      · obtain ⟨hoffence, rfl⟩ := hstop
        obtain rfl : left = 0 := by omega
        have hpass : pass = _ := checkOccurrences_stops h o rest hoffence
        refine ⟨[o], examined_stop hoffence rest, ?_, hpass ▸ hnext⟩
        obtain ⟨issue, hissue⟩ := Option.isSome_iff_exists.mp hoffence
        simp [hpass, limited, offences_cons, hissue]
      · -- The offence, if there is one, takes its share of what is left.
        obtain ⟨less, rfl⟩ : ∃ less, left = less + (offence? r.policy o).toList.length := by
          cases hoffence : offence? r.policy o with
          | none => exact ⟨left, rfl⟩
          | some issue =>
              have hroom : reported ≠ r.policy.maxIssues := by simpa [hoffence] using hstop
              exact ⟨left - 1, by simp; omega⟩
        have hpass : pass = _ := checkOccurrences_goes_on h o rest (not_and.mp hstop)
        have hless : reported + (offence? r.policy o).toList.length + less =
            (r.checkType o.dependency).2.policy.maxIssues := by
          change _ = r.policy.maxIssues
          omega
        obtain ⟨seen, hseen, hreport, hsimulates⟩ := ih hnext hless
        refine ⟨o :: seen, hseen.cons o, ?_, hpass ▸ hsimulates⟩
        rw [hpass, hreport, offences_cons, limited_append]
        exact congrArg (Report.mk _) (Nat.add_comm 1 seen.length)

theorem run_checkTypes (r : Reference) (seen : List Occurrence) :
    (r.run (seen.map fun o => .checkType o.dependency)).2 =
      { r with selectedTypes := (selectedTypes r.policy seen).reverse ++ r.selectedTypes } := by
  induction seen generalizing r with
  | nil => rfl
  | cons o rest ih =>
      refine (ih (r.checkType o.dependency).2).trans ?_
      simp only [Reference.checkType, selectedTypes, filterMap_cons_toList]
      cases (r.policy.typeVerdict o.dependency).rule <;> simp

theorem checkAssemblies_run {v : Validator} {r : Reference} (h : Simulates v r)
    (dependencies : List AssemblyDependency) :
    let pass := checkAssemblies v dependencies
    pass.1 = ⟨dependencies.filterMap (assemblyOffence? r.policy), dependencies.length⟩ ∧
      Simulates pass.2 (r.run (dependencies.map .checkAssembly)).2 := by
  induction dependencies generalizing v r with
  | nil => exact ⟨rfl, h⟩
  | cons d rest ih =>
      intro pass
      obtain ⟨hstatus, hnext⟩ := h.checkAssembly d
      have hpolicy : (v.checkAssembly d).2.policy = r.policy := hnext.policy
      obtain ⟨hreport, hsimulates⟩ := ih hnext
      refine ⟨?_, hsimulates⟩
      have hverdict : (v.checkAssembly d).1 = (r.policy.assemblyVerdict d).status := hstatus
      have hreport' : (checkAssemblies (v.checkAssembly d).2 rest).1 =
          ⟨rest.filterMap (assemblyOffence? r.policy), rest.length⟩ := hreport
      simp only [pass, checkAssemblies, hreport', hverdict, hpolicy]
      rw [List.filterMap_cons, List.length_cons, Nat.add_comm rest.length]
      by_cases hallowed : (r.policy.assemblyVerdict d).status = .allowed
      · rw [assemblyOffence?, if_pos hallowed, hallowed]
        rfl
      · rw [assemblyOffence?, if_neg hallowed, if_neg (mt isAllowed_eq_true_iff.mp hallowed)]
        rfl

theorem run_checkAssemblies (r : Reference) (dependencies : List AssemblyDependency) :
    (r.run (dependencies.map .checkAssembly)).2 =
      { r with selectedAssemblies :=
          (selectedAssemblies r.policy dependencies).reverse ++ r.selectedAssemblies } := by
  induction dependencies generalizing r with
  | nil => rfl
  | cons d rest ih =>
      refine (ih (r.checkAssembly d).2).trans ?_
      simp only [Reference.checkAssembly, selectedAssemblies, filterMap_cons_toList]
      cases (r.policy.assemblyVerdict d).rule <;> simp

theorem unusedIssues_of_simulates {v : Validator} {r : Reference} (h : Simulates v r)
    (htypes : r.policy.allowRules.Nodup) (hassemblies : r.policy.allowAssembly.Nodup) :
    v.unusedIssues =
      (Reference.unselected r.policy.allowRules r.selectedTypes ++
        if r.policy.checkAssemblies then
          Reference.unselected r.policy.allowAssembly r.selectedAssemblies
        else []).map unusedIssue := by
  rw [Validator.unusedIssues, Validator.unusedTypeRules, Validator.unusedAssemblyRules, h.policy,
    h.types.filter_eq_unselected htypes, h.assemblies.filter_eq_unselected hassemblies]
  rfl

/-- A validator that was not asked before goes over occurrences and then over assemblies.  What is
unused afterwards is what neither pass needed for the dependencies that it looked at. -/
theorem passes_fresh {p : Policy} (htypes : p.allowRules.Nodup)
    (hassemblies : p.allowAssembly.Nodup) (isExcluded : Option Location → Bool)
    (occurrences : List Occurrence) (dependencies : List AssemblyDependency) :
    let xs := occurrences.filter fun o => !isExcluded o.location
    let types := checkOccurrences isExcluded 0 { policy := p } occurrences
    let assemblies := checkAssemblies types.2 dependencies
    ∃ seen, Examined p p.maxIssues xs seen ∧
      types.1 = ⟨limited p p.maxIssues (offences p xs), seen.length⟩ ∧
      assemblies.1 = ⟨dependencies.filterMap (assemblyOffence? p), dependencies.length⟩ ∧
      assemblies.2.unusedIssues = (unusedRules p seen dependencies).map unusedIssue := by
  intro xs types assemblies
  have htypesEq : types = checkOccurrences (fun _ => false) 0 { policy := p } xs :=
    checkOccurrences_eq_filter ..
  obtain ⟨seen, hseen, hfirst, hmiddle⟩ :=
    checkOccurrences_run (simulates_fresh p) (Nat.zero_add _) xs
  rw [← htypesEq] at hfirst hmiddle
  obtain ⟨hsecond, hlast⟩ := checkAssemblies_run hmiddle dependencies
  rw [run_checkTypes] at hsecond hlast
  rw [run_checkAssemblies] at hlast
  refine ⟨seen, hseen, hfirst, hsecond, ?_⟩
  have hrules : ∀ (rules : List Rule) (selected : List Nat),
      Reference.unselected rules (selected.reverse ++ []) = Reference.unselected rules selected :=
    fun _ _ => unselected_congr (by simp)
  rw [unusedIssues_of_simulates hlast htypes hassemblies]
  simp only [unusedRules, hrules]

end NamespacePolicy.Proofs.Passes
