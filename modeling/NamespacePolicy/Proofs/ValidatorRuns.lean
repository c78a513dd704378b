import NamespacePolicy.Proofs.Drafts
import NamespacePolicy.Proofs.RuleSelection
import NamespacePolicy.Validator

/-!
Runs of a validator.  A validator remembers verdicts and marks rules; a reference computes every
verdict anew and keeps the indices of the rules that decided.  Both give the same answers in every
run, because a policy completed from a draft lists no rule twice.
-/

namespace NamespacePolicy.Proofs.ValidatorRuns

open Drafts RuleSelection

/-- A validator that remembers no verdict.  It knows which rules decided by their indices. -/
structure Reference where
  policy : Policy
  selectedTypes : List Nat := []
  selectedAssemblies : List Nat := []

namespace Reference

def unselected (rules : List Rule) (selected : List Nat) : List Rule :=
  (rules.zipIdx.filter fun entry => entry.2 ∉ selected).map (·.1)

def checkType (r : Reference) (d : TypeDependency) : Status × Reference :=
  let verdict := r.policy.typeVerdict d
  (verdict.status, { r with selectedTypes := verdict.rule.toList ++ r.selectedTypes })

def checkAssembly (r : Reference) (d : AssemblyDependency) : Status × Reference :=
  let verdict := r.policy.assemblyVerdict d
  (verdict.status, { r with selectedAssemblies := verdict.rule.toList ++ r.selectedAssemblies })

/-- The answer to a call.  There is none about caches. -/
def answer (r : Reference) : Validator.Call → Option Validator.Answer × Reference
  | .checkType d => (r.checkType d).map (some ∘ .status) id
  | .allowsType sn st tn tt =>
      (r.checkType (.ofSymbols sn st tn tt)).map (fun status => some (.truth status.isAllowed)) id
  | .checkAssembly d => (r.checkAssembly d).map (some ∘ .status) id
  | .unusedTypeRules => (some (.rules (unselected r.policy.allowRules r.selectedTypes)), r)
  | .unusedAssemblyRules =>
      (some (.rules (unselected r.policy.allowAssembly r.selectedAssemblies)), r)
  | .resetUsage => (some .done, { r with selectedTypes := [], selectedAssemblies := [] })
  | .statistics => (none, r)

def run (r : Reference) : List Validator.Call → List (Option Validator.Answer) × Reference
  | [] => ([], r)
  | call :: calls =>
      let (answer, r) := r.answer call
      let (answers, r) := run r calls
      (answer :: answers, r)

end Reference

theorem unselected_congr {rules : List Rule} {selected selected' : List Nat}
    (h : ∀ i, i ∈ selected ↔ i ∈ selected') :
    Reference.unselected rules selected = Reference.unselected rules selected' := by
  simp only [Reference.unselected, h]

def Agrees (expected : Option Validator.Answer) (answer : Validator.Answer) : Prop :=
  expected = none ∨ expected = some answer

/-- An answer in a run is that of the validator which the calls before it leave. -/
theorem getElem?_run (v : Validator) (calls : List Validator.Call) (i : Nat) :
    (v.run calls).1[i]? = calls[i]?.map fun call => ((v.run (calls.take i)).2.answer call).1 := by
  induction calls generalizing v i with
  | nil => rfl
  | cons call rest ih =>
      cases i with
      | zero => rfl
      | succ i => exact ih (v.answer call).2 i

section Tracking

variable {κ : Type} {compute : κ → Verdict} {rules : List Rule} {cache : Cache κ}
  {used : List Rule} {selected : List Nat}

/-- All that is remembered would be computed again, and the rules marked are those at the selected
indices. -/
structure Tracks (compute : κ → Verdict) (rules : List Rule) (cache : Cache κ)
    (used : List Rule) (selected : List Nat) : Prop where
  remembered : ∀ entry ∈ cache.entries, entry.2 = compute entry.1
  marked : ∀ rule, rule ∈ used ↔ ∃ i ∈ selected, rules[i]? = some rule

theorem tracks_fresh : Tracks compute rules {} [] [] :=
  ⟨by simp, by simp⟩

theorem Tracks.forget (h : Tracks compute rules cache used selected) :
    Tracks compute rules cache [] [] :=
  ⟨h.remembered, by simp⟩

theorem mem_markUsed (used rules : List Rule) (index : Option Nat) (rule : Rule) :
    rule ∈ Validator.markUsed used rules index ↔
      rule ∈ used ∨ ∃ i, index = some i ∧ rules[i]? = some rule := by
  cases index with
  | none => simp [Validator.markUsed]
  | some i =>
      simp only [Validator.markUsed, Option.bind_some, Option.some.injEq, exists_eq_left']
      cases hfound : rules[i]? with
      | none => simp
      | some found =>
          simp only [Option.some.injEq]
          split
          · next hmem =>
            constructor
            · exact .inl
            · rintro (h | rfl)
              · exact h
              · exact hmem
          · rw [List.mem_cons, or_comm, eq_comm]

/-- Where no rule is listed twice, a rule is marked just when its own index was selected. -/
theorem Tracks.filter_eq_unselected (h : Tracks compute rules cache used selected)
    (hrules : rules.Nodup) :
    rules.filter (fun rule => rule ∉ used) = Reference.unselected rules selected := by
  have hindex : ∀ entry ∈ rules.zipIdx, entry.1 ∈ used ↔ entry.2 ∈ selected := by
    rintro ⟨rule, i⟩ hentry
    have hi : rules[i]? = some rule := List.mk_mem_zipIdx_iff_getElem?.mp hentry
    rw [h.marked]
    constructor
    -- Another index of the same rule would do for the marks, but there is none.
    · rintro ⟨j, hj, hrule⟩
      have hj' : j < rules.length := (List.getElem?_eq_some_iff.mp hrule).1
      have hij : j = i := (List.getElem?_inj hj' hrules).mp (hrule.trans hi.symm)
      exact hij ▸ hj
    · exact fun hi' => ⟨i, hi', hi⟩
  calc
    rules.filter (fun rule => rule ∉ used) =
        (rules.zipIdx.map (·.1)).filter (fun rule => rule ∉ used) := by
      rw [List.zipIdx_map_fst]
    _ = (rules.zipIdx.filter fun entry => entry.1 ∉ used).map (·.1) := by
      rw [List.filter_map]
      rfl
    _ = Reference.unselected rules selected := by
      rw [Reference.unselected]
      congr 1
      apply List.filter_congr
      intro entry hentry
      simp [hindex entry hentry]

variable [DecidableEq κ]

theorem get?_mem {key : κ} {verdict : Verdict} (h : cache.get? key = some verdict) :
    (key, verdict) ∈ cache.entries := by
  simp only [Cache.get?, Option.map_eq_some_iff] at h
  obtain ⟨entry, hfind, rfl⟩ := h
  have hkey : entry.1 = key := by simpa using List.find?_some hfind
  subst hkey
  exact List.mem_of_find?_eq_some hfind

theorem Tracks.lookup_fst (h : Tracks compute rules cache used selected) (key : κ) :
    (cache.lookup key compute).1 = compute key := by
  rw [Cache.lookup]
  cases hfound : cache.get? key with
  | none => rfl
  | some verdict => exact h.remembered _ (get?_mem hfound)

theorem Tracks.lookup (h : Tracks compute rules cache used selected) (key : κ) :
    Tracks compute rules (cache.lookup key compute).2
      (Validator.markUsed used rules (cache.lookup key compute).1.rule)
      ((compute key).rule.toList ++ selected) := by
  refine ⟨?_, ?_⟩
  · rw [Cache.lookup]
    cases hfound : cache.get? key with
    | some verdict => exact h.remembered
    | none =>
        intro entry hentry
        rcases List.mem_cons.mp hentry with rfl | hentry
        · rfl
        · exact h.remembered entry hentry
  · intro rule
    rw [mem_markUsed, h.lookup_fst, h.marked]
    simp only [List.mem_append, Option.mem_toList, or_and_right, exists_or]
    exact or_comm

end Tracking

structure Simulates (v : Validator) (r : Reference) : Prop where
  policy : v.policy = r.policy
  types : Tracks r.policy.typeVerdict r.policy.allowRules v.typeCache v.usedTypeRules
    r.selectedTypes
  assemblies : Tracks r.policy.assemblyVerdict r.policy.allowAssembly v.assemblyCache
    v.usedAssemblyRules r.selectedAssemblies

theorem simulates_fresh (p : Policy) : Simulates { policy := p } { policy := p } :=
  ⟨rfl, tracks_fresh, tracks_fresh⟩

theorem typeVerdict_of_isInternal (p : Policy) {d : TypeDependency} (h : d.isInternal = true) :
    p.typeVerdict d = ⟨.allowed, none⟩ := by
  have hsame : d.sourceNamespace = d.targetNamespace := by
    simpa [TypeDependency.isInternal] using h
  exact if_pos hsame

theorem assemblyVerdict_of_isInternal (p : Policy) {d : AssemblyDependency}
    (h : d.isInternal = true) : p.assemblyVerdict d = ⟨.allowed, none⟩ :=
  if_pos h

section Step

variable {v : Validator} {r : Reference} (h : Simulates v r)

include h

theorem Simulates.checkType (d : TypeDependency) :
    (v.checkType d).1 = (r.checkType d).1 ∧ Simulates (v.checkType d).2 (r.checkType d).2 := by
  rw [Validator.checkType, Reference.checkType, h.policy]
  split
  · next hinternal =>
    rw [typeVerdict_of_isInternal r.policy hinternal]
    exact ⟨rfl, h⟩
  · refine ⟨congrArg Verdict.status (h.types.lookup_fst d), ?_⟩
    exact ⟨rfl, h.types.lookup d, h.assemblies⟩

theorem Simulates.checkAssembly (d : AssemblyDependency) :
    (v.checkAssembly d).1 = (r.checkAssembly d).1 ∧
      Simulates (v.checkAssembly d).2 (r.checkAssembly d).2 := by
  rw [Validator.checkAssembly, Reference.checkAssembly, h.policy]
  split
  · next hinternal =>
    rw [assemblyVerdict_of_isInternal r.policy hinternal]
    exact ⟨rfl, h⟩
  · refine ⟨congrArg Verdict.status (h.assemblies.lookup_fst d), ?_⟩
    exact ⟨rfl, h.types, h.assemblies.lookup d⟩

theorem Simulates.answer_snd (call : Validator.Call) :
    Simulates (v.answer call).2 (r.answer call).2 := by
  cases call with
  | checkType d => exact (h.checkType d).2
  | allowsType sn st tn tt => exact (h.checkType (.ofSymbols sn st tn tt)).2
  | checkAssembly d => exact (h.checkAssembly d).2
  | resetUsage => exact ⟨h.policy, h.types.forget, h.assemblies.forget⟩
  | unusedTypeRules | unusedAssemblyRules | statistics => exact h

theorem Simulates.answer_fst (htypes : r.policy.allowRules.Nodup)
    (hassemblies : r.policy.allowAssembly.Nodup) (call : Validator.Call) :
    Agrees (r.answer call).1 (v.answer call).1 := by
  cases call with
  | checkType d =>
      have hstatus := (h.checkType d).1
      exact .inr (by simp [Validator.answer, Reference.answer, hstatus])
  | allowsType sn st tn tt =>
      have hstatus := (h.checkType (.ofSymbols sn st tn tt)).1
      exact .inr (by simp [Validator.answer, Validator.allowsType, Reference.answer, hstatus])
  | checkAssembly d =>
      have hstatus := (h.checkAssembly d).1
      exact .inr (by simp [Validator.answer, Reference.answer, hstatus])
  | unusedTypeRules =>
      have hunused := h.types.filter_eq_unselected htypes
      refine .inr ?_
      simp only [Validator.answer, Reference.answer, Validator.unusedTypeRules, h.policy, hunused]
  | unusedAssemblyRules =>
      have hunused := h.assemblies.filter_eq_unselected hassemblies
      refine .inr ?_
      simp only [Validator.answer, Reference.answer, Validator.unusedAssemblyRules, h.policy,
        hunused]
  | resetUsage => exact .inr rfl
  | statistics => exact .inl rfl

end Step

theorem answer_policy (r : Reference) (call : Validator.Call) :
    (r.answer call).2.policy = r.policy := by
  cases call <;> rfl

theorem run_policy (r : Reference) (calls : List Validator.Call) :
    (r.run calls).2.policy = r.policy := by
  induction calls generalizing r with
  | nil => rfl
  | cons call rest ih =>
      rw [← answer_policy r call]
      exact ih (r.answer call).2

theorem Simulates.run {v : Validator} {r : Reference} (h : Simulates v r)
    (htypes : r.policy.allowRules.Nodup) (hassemblies : r.policy.allowAssembly.Nodup)
    (calls : List Validator.Call) :
    List.Forall₂ Agrees (r.run calls).1 (v.run calls).1 ∧
      Simulates (v.run calls).2 (r.run calls).2 := by
  induction calls generalizing v r with
  | nil => exact ⟨.nil, h⟩
  | cons call rest ih =>
      have hagrees := h.answer_fst htypes hassemblies call
      rw [← answer_policy r call] at htypes hassemblies
      obtain ⟨hrest, hlast⟩ := ih (h.answer_snd call) htypes hassemblies
      exact ⟨.cons hagrees hrest, hlast⟩

theorem verdictOfRule_rule (p : Policy) (i : Nat) (d : TypeDependency) :
    (p.verdictOfRule i d).rule = some i := by
  simp only [Policy.verdictOfRule]
  split
  · split <;> rfl
  · rfl

theorem typeVerdict_rule_lt {p : Policy} {d : TypeDependency} {i : Nat}
    (h : (p.typeVerdict d).rule = some i) : i < p.allowRules.length := by
  simp only [Policy.typeVerdict] at h
  split_ifs at h
  split at h
  · simp at h
  · next j hrule =>
    rw [verdictOfRule_rule] at h
    exact Option.some.inj h ▸ mostRelevant_lt_length hrule

theorem assemblyVerdict_rule_lt {p : Policy} {d : AssemblyDependency} {i : Nat}
    (h : (p.assemblyVerdict d).rule = some i) : i < p.allowAssembly.length := by
  simp only [Policy.assemblyVerdict] at h
  split_ifs at h
  split at h
  · simp at h
  · next j hrule => exact Option.some.inj h ▸ mostRelevant_lt_length hrule

def IndicesInRange {κ : Type} (cache : Cache κ) (rules : List Rule) : Prop :=
  ∀ entry ∈ cache.entries, ∀ i, entry.2.rule = some i → i < rules.length

theorem Tracks.indicesInRange {κ : Type} {compute : κ → Verdict} {rules : List Rule}
    {cache : Cache κ} {used : List Rule} {selected : List Nat}
    (h : Tracks compute rules cache used selected)
    (hcompute : ∀ key i, (compute key).rule = some i → i < rules.length) :
    IndicesInRange cache rules := by
  intro entry hentry i hi
  rw [h.remembered entry hentry] at hi
  exact hcompute entry.1 i hi

/-- For the policy of any draft and any calls, the validator answers as its reference, and the
indices it remembers stay in range. -/
theorem run_agrees (edits : List Edit) (calls : List Validator.Call) :
    let p := (Draft.ofEdits edits).complete
    let v := Validator.run { policy := p } calls
    List.Forall₂ Agrees (Reference.run { policy := p } calls).1 v.1 ∧
      IndicesInRange v.2.typeCache p.allowRules ∧
      IndicesInRange v.2.assemblyCache p.allowAssembly := by
  have hsound := sound_ofEdits edits
  obtain ⟨hagrees, hlast⟩ := (simulates_fresh (Draft.ofEdits edits).complete).run
    hsound.allowRules_nodup hsound.allowAssembly calls
  have htypes := hlast.types
  have hassemblies := hlast.assemblies
  rw [run_policy] at htypes hassemblies
  exact ⟨hagrees, htypes.indicesInRange fun _ _ => typeVerdict_rule_lt,
    hassemblies.indicesInRange fun _ _ => assemblyVerdict_rule_lt⟩

end NamespacePolicy.Proofs.ValidatorRuns
