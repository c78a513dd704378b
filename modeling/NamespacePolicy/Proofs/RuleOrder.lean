import NamespacePolicy.Proofs.Locality
import NamespacePolicy.Proofs.ValidatorRuns

/-!
The order of rules.  Rules that forbid can stand in any order.  Of the rules that allow, the first
one of the highest rank decides, so their order counts only where several of them share that rank;
otherwise the same rule decides wherever it stands, although its index moves with it.
-/

namespace NamespacePolicy.Proofs.RuleOrder

open Drafts Locality RuleSelection ValidatorRuns Verdicts

/-- Of the rules that cover the pair, none has a higher rank. -/
structure Tops (rules : List Rule) (source target : Domain) (r : Rule) : Prop where
  mem : r ∈ rules
  covers : r.covers source target = true
  highest : ∀ other ∈ rules, other.covers source target = true →
    rank source target other ≤ rank source target r

/-- Two different rules share the highest rank. -/
def Tied (rules : List Rule) (source target : Domain) : Prop :=
  ∃ r s, r ≠ s ∧ Tops rules source target r ∧ Tops rules source target s

/-- The allow rule that a verdict names. -/
def decisive? (p : Policy) (v : Verdict) : Option AllowRule := v.rule.bind (p.allow[·]?)

section Rules

variable {rules others : List Rule} {source target : Domain}

theorem Tops.perm {r : Rule} (h : Tops rules source target r) (hperm : rules.Perm others) :
    Tops others source target r where
  mem := hperm.mem_iff.mp h.mem
  covers := h.covers
  highest := fun other hother => h.highest other (hperm.mem_iff.mpr hother)

theorem exists_tops_of_mostRelevant {i : Nat} (h : mostRelevant rules source target = some i) :
    ∃ r, rules[i]? = some r ∧ Tops rules source target r := by
  obtain ⟨r, hr, hcovers, hbest⟩ := isMostRelevant_of_mostRelevant h
  refine ⟨r, hr, List.mem_of_getElem? hr, hcovers, ?_⟩
  intro other hother hc
  obtain ⟨j, hj⟩ := List.getElem?_of_mem hother
  exact (hbest j other hj hc).1

theorem mostRelevant_eq_none_iff_of_perm (source target : Domain) (hperm : others.Perm rules) :
    mostRelevant others source target = none ↔ mostRelevant rules source target = none := by
  rw [mostRelevant_eq_none_iff, mostRelevant_eq_none_iff]
  exact forall_congr' fun r => imp_congr_left hperm.mem_iff

/-- Where nothing ties, the same rule leads in every order. -/
theorem exists_common_of_not_tied (hperm : others.Perm rules)
    (htied : ¬ Tied rules source target) {i j : Nat}
    (hi : mostRelevant rules source target = some i)
    (hj : mostRelevant others source target = some j) :
    ∃ r, rules[i]? = some r ∧ others[j]? = some r := by
  obtain ⟨r, hr, hrTops⟩ := exists_tops_of_mostRelevant hi
  obtain ⟨s, hs, hsTops⟩ := exists_tops_of_mostRelevant hj
  have hsame : r = s := by
    by_contra hne
    exact htied ⟨r, s, hne, hrTops, hsTops.perm hperm⟩
  exact ⟨r, hr, hsame ▸ hs⟩

end Rules

section Policies

variable {p q : Policy} {d : TypeDependency}

theorem getElem?_allow_of_rule (hp : p.allowRules.Nodup) (hperm : q.allow.Perm p.allow) {i j : Nat}
    {r : Rule} (hi : p.allowRules[i]? = some r) (hj : q.allowRules[j]? = some r) :
    ∃ a, p.allow[i]? = some a ∧ q.allow[j]? = some a := by
  rw [Policy.allowRules, List.getElem?_map, Option.map_eq_some_iff] at hi hj
  obtain ⟨a, ha, hrule⟩ := hi
  obtain ⟨b, hb, hsame⟩ := hj
  have hmem : b ∈ p.allow := hperm.mem_iff.mp (List.mem_of_getElem? hb)
  have heq : a = b :=
    List.inj_on_of_nodup_map hp (List.mem_of_getElem? ha) hmem (hrule.trans hsame.symm)
  exact ⟨a, ha, heq ▸ hb⟩

/-- What an allow rule decides hangs on the rule and not on its index. -/
theorem status_verdictOfRule_congr {i j : Nat} (hallow : p.allow[i]? = q.allow[j]?)
    (hmembers : p.membersOf d.targetNamespace = q.membersOf d.targetNamespace) :
    (p.verdictOfRule i d).status = (q.verdictOfRule j d).status := by
  simp only [Policy.verdictOfRule, Policy.visibleThrough, hallow, hmembers]
  split
  · split <;> rfl
  · rfl

theorem typeVerdict_of_perm_disallow {disallow : List Rule} (h : disallow.Perm p.disallow)
    (disallowAssembly : List Rule) (d : TypeDependency) :
    { p with disallow, disallowAssembly }.typeVerdict d = p.typeVerdict d :=
  typeVerdict_congr h.any_eq rfl rfl rfl fun _ _ => rfl

theorem assemblyVerdict_of_perm_disallow {disallowAssembly : List Rule}
    (h : disallowAssembly.Perm p.disallowAssembly) (disallow : List Rule)
    (d : AssemblyDependency) :
    { p with disallow, disallowAssembly }.assemblyVerdict d = p.assemblyVerdict d :=
  assemblyVerdict_congr h.any_eq rfl

theorem decisive?_verdictOfRule (p : Policy) (i : Nat) (d : TypeDependency) :
    decisive? p (p.verdictOfRule i d) = p.allow[i]? := by
  rw [decisive?, verdictOfRule_rule, Option.bind_some]

theorem typeVerdict_of_perm_allow (hp : p.allowRules.Nodup) {allow : List AllowRule}
    (h : allow.Perm p.allow)
    (htied : ¬ Tied p.allowRules d.sourceNamespace d.targetNamespace) :
    let q := { p with allow }
    (q.typeVerdict d).status = (p.typeVerdict d).status ∧
      decisive? q (q.typeVerdict d) = decisive? p (p.typeVerdict d) := by
  intro q
  have hrules : q.allowRules.Perm p.allowRules := h.map _
  -- Only the last level of precedence looks at the rules that allow.
  by_cases hsame : d.sourceNamespace = d.targetNamespace
  · have hinternal : d.isInternal = true := decide_eq_true hsame
    rw [typeVerdict_of_isInternal q hinternal, typeVerdict_of_isInternal p hinternal]
    exact ⟨rfl, rfl⟩
  by_cases hforbidden : Forbidden p d
  · rw [typeVerdict_of_forbidden (p := q) hsame hforbidden,
      typeVerdict_of_forbidden hsame hforbidden]
    exact ⟨rfl, rfl⟩
  by_cases hrelated : Related p d
  · rw [typeVerdict_of_related (p := q) hsame hforbidden hrelated,
      typeVerdict_of_related hsame hforbidden hrelated]
    exact ⟨rfl, rfl⟩
  rw [typeVerdict_of_strangers (p := q) hsame hforbidden hrelated,
    typeVerdict_of_strangers hsame hforbidden hrelated]
  have hnone := mostRelevant_eq_none_iff_of_perm d.sourceNamespace d.targetNamespace hrules
  cases hi : mostRelevant p.allowRules d.sourceNamespace d.targetNamespace with
  | none =>
      rw [hnone.mpr hi]
      exact ⟨rfl, rfl⟩
  | some i =>
      cases hj : mostRelevant q.allowRules d.sourceNamespace d.targetNamespace with
      | none => simp [hnone.mp hj] at hi
      | some j =>
          obtain ⟨r, hr, hs⟩ := exists_common_of_not_tied hrules htied hi hj
          obtain ⟨a, ha, hb⟩ := getElem?_allow_of_rule hp h hr hs
          have hallow : q.allow[j]? = p.allow[i]? := hb.trans ha.symm
          refine ⟨status_verdictOfRule_congr hallow rfl, ?_⟩
          rw [Option.elim_some, Option.elim_some, decisive?_verdictOfRule,
            decisive?_verdictOfRule, hallow]

theorem status_assemblyVerdict_of_perm_allow {allowAssembly : List Rule}
    (h : allowAssembly.Perm p.allowAssembly) (d : AssemblyDependency) :
    ({ p with allowAssembly }.assemblyVerdict d).status = (p.assemblyVerdict d).status := by
  have hnone := mostRelevant_eq_none_iff_of_perm d.source d.target h
  simp only [Policy.assemblyVerdict]
  split
  · rfl
  · split
    · rfl
    · cases hi : mostRelevant p.allowAssembly d.source d.target with
      | none => rw [hnone.mpr hi]
      | some i =>
          cases hj : mostRelevant allowAssembly d.source d.target with
          | none => simp [hnone.mp hj] at hi
          | some j => rfl

end Policies

/-- However a draft was edited, the rules of its policy that forbid can be put in any order, and so
can the rules that allow assemblies as far as statuses go.  The rules that allow types can be put
in any order for every dependency for which no two of them share the highest rank: the same rule
then decides, and to the same effect. -/
theorem verdicts_perm (edits : List Edit) :
    let p := (Draft.ofEdits edits).complete
    (∀ disallow disallowAssembly : List Rule,
      disallow.Perm p.disallow → disallowAssembly.Perm p.disallowAssembly →
      let q := { p with disallow, disallowAssembly }
      (∀ d, q.typeVerdict d = p.typeVerdict d) ∧
        ∀ d, q.assemblyVerdict d = p.assemblyVerdict d) ∧
    (∀ allow : List AllowRule, allow.Perm p.allow → ∀ d : TypeDependency,
      let q := { p with allow }
      Tied p.allowRules d.sourceNamespace d.targetNamespace ∨
        (q.typeVerdict d).status = (p.typeVerdict d).status ∧
          decisive? q (q.typeVerdict d) = decisive? p (p.typeVerdict d)) ∧
    ∀ allowAssembly : List Rule, allowAssembly.Perm p.allowAssembly → ∀ d : AssemblyDependency,
      ({ p with allowAssembly }.assemblyVerdict d).status = (p.assemblyVerdict d).status := by
  intro p
  have hp : p.allowRules.Nodup := (sound_ofEdits edits).allowRules_nodup
  refine ⟨?_, ?_, ?_⟩
  · intro disallow disallowAssembly htypes hassemblies
    constructor
    · exact typeVerdict_of_perm_disallow htypes disallowAssembly
    · exact assemblyVerdict_of_perm_disallow hassemblies disallow
  · intro allow hallow d
    exact or_iff_not_imp_left.mpr (typeVerdict_of_perm_allow hp hallow)
  · intro allowAssembly hallow d
    exact status_assemblyVerdict_of_perm_allow hallow d

/-- Both rules cover `A.C` with the same rank, so their order decides which types are visible.  Only
the first rule covers `A.D`, and it decides from either place. -/
theorem reversed_rules_verdicts :
    let first : Rule := ⟨.wildcard ⟨[.literal "A", .anyOne]⟩, .exact ⟨"B"⟩⟩
    let second : Rule := ⟨.wildcard ⟨[.anyOne, .literal "C"]⟩, .exact ⟨"B"⟩⟩
    let others : List Rule := [⟨.exact ⟨"D"⟩, .exact ⟨"B"⟩⟩, ⟨.exact ⟨"A.C"⟩, .exact ⟨"D"⟩⟩]
    let p := (Draft.ofEdits
      ([.addAllow first (.ofList ["X"]), .addAllow second (.ofList ["Y"]),
        .addAllowAssembly first, .addAllowAssembly second] ++ others.map .addDisallow ++
        others.map .addDisallowAssembly)).complete
    let uses (source target : String) : TypeDependency := ⟨⟨source⟩, "S", ⟨target⟩, "X"⟩
    let forbidding : Policy :=
      { p with disallow := others.reverse, disallowAssembly := others.reverse }
    let allowing : Policy := { p with allow := p.allow.reverse }
    let referring : Policy := { p with allowAssembly := [second, first] }
    forbidding.typeVerdict (uses "A.C" "D") = p.typeVerdict (uses "A.C" "D") ∧
      (allowing.typeVerdict (uses "A.C" "B")).status ≠
        (p.typeVerdict (uses "A.C" "B")).status ∧
      Tied p.allowRules ⟨"A.C"⟩ ⟨"B"⟩ ∧
      (allowing.typeVerdict (uses "A.D" "B")).rule ≠ (p.typeVerdict (uses "A.D" "B")).rule ∧
      (allowing.typeVerdict (uses "A.D" "B")).status =
        (p.typeVerdict (uses "A.D" "B")).status ∧
      (referring.assemblyVerdict ⟨⟨"A.D"⟩, ⟨"B"⟩⟩).status =
        (p.assemblyVerdict ⟨⟨"A.D"⟩, ⟨"B"⟩⟩).status := by
  intro first second others p uses forbidding allowing referring
  obtain ⟨hdisallow, hallow, hassemblies⟩ := verdicts_perm
    ([.addAllow first (.ofList ["X"]), .addAllow second (.ofList ["Y"]),
      .addAllowAssembly first, .addAllowAssembly second] ++ others.map .addDisallow ++
      others.map .addDisallowAssembly)
  have hother : (allowing.typeVerdict (uses "A.C" "B")).status ≠
      (p.typeVerdict (uses "A.C" "B")).status := by
    decide +kernel
  have honly : ∀ r ∈ p.allowRules, r.covers ⟨"A.D"⟩ ⟨"B"⟩ = true → r = first := by
    decide +kernel
  have huntied : ¬ Tied p.allowRules ⟨"A.D"⟩ ⟨"B"⟩ := by
    rintro ⟨r, s, hne, hr, hs⟩
    apply hne
    rw [honly r hr.mem hr.covers, honly s hs.mem hs.covers]
  refine ⟨?_, hother, ?_, by decide +kernel, ?_, ?_⟩
  · exact (hdisallow _ _ others.reverse_perm others.reverse_perm).1 _
  · exact (hallow _ p.allow.reverse_perm (uses "A.C" "B")).resolve_right fun h => hother h.1
  · exact ((hallow _ p.allow.reverse_perm (uses "A.D" "B")).resolve_left huntied).1
  · exact hassemblies _ (List.Perm.swap first second []) _

end NamespacePolicy.Proofs.RuleOrder
