import NamespacePolicy.Proofs.Ancestry
import NamespacePolicy.Proofs.Drafts
import NamespacePolicy.Proofs.RuleSelection
import NamespacePolicy.Verdict

/-!
Which verdict a policy gives on a dependency between types.  The verdict is declared by rules of
precedence, of which exactly one applies, and the policy of every draft computes the declared one.
-/

namespace NamespacePolicy.Proofs.Verdicts

open Ancestry Drafts RuleSelection

def Forbidden (p : Policy) (d : TypeDependency) : Prop :=
  ∃ r ∈ p.disallow, r.covers d.sourceNamespace d.targetNamespace = true

def Related (p : Policy) (d : TypeDependency) : Prop :=
  (p.childMayUseParent = true ∧ IsAncestor d.targetNamespace d.sourceNamespace) ∨
    (p.parentMayUseChild = true ∧ IsAncestor d.sourceNamespace d.targetNamespace)

/-- The allow rule at `i` shows only `types` of the target namespace.  These are the types that the
rule names, or else those that the namespace shows; an empty set restricts nothing. -/
def ShowsOnly (p : Policy) (target : Domain) (i : Nat) (types : TypeNames) : Prop :=
  ∃ a, p.allow[i]? = some a ∧
    ((a.visible ≠ .empty ∧ types = a.visible) ∨
      (a.visible = .empty ∧ (target, types) ∈ p.visibleMembers ∧ types ≠ .empty))

/-- The verdict that a policy declares on a dependency, by precedence. -/
inductive Declares (p : Policy) (d : TypeDependency) : Verdict → Prop
  | inside (hsame : d.sourceNamespace = d.targetNamespace) : Declares p d ⟨.allowed, none⟩
  | forbidden (hother : d.sourceNamespace ≠ d.targetNamespace) (hforbidden : Forbidden p d) :
      Declares p d ⟨.disallowed, none⟩
  | related (hother : d.sourceNamespace ≠ d.targetNamespace) (hfree : ¬ Forbidden p d)
      (hrelated : Related p d) : Declares p d ⟨.allowed, none⟩
  | unmatched (hother : d.sourceNamespace ≠ d.targetNamespace) (hfree : ¬ Forbidden p d)
      (hstrangers : ¬ Related p d)
      (hnone : ∀ r ∈ p.allowRules, r.covers d.sourceNamespace d.targetNamespace = false) :
      Declares p d ⟨.disallowed, none⟩
  | allowed {i : Nat} (hother : d.sourceNamespace ≠ d.targetNamespace) (hfree : ¬ Forbidden p d)
      (hstrangers : ¬ Related p d)
      (hrule : IsMostRelevant p.allowRules d.sourceNamespace d.targetNamespace i)
      (hseen : ∀ types, ShowsOnly p d.targetNamespace i types → d.targetType ∈ types) :
      Declares p d ⟨.allowed, some i⟩
  | hidden {i : Nat} {types : TypeNames} (hother : d.sourceNamespace ≠ d.targetNamespace)
      (hfree : ¬ Forbidden p d) (hstrangers : ¬ Related p d)
      (hrule : IsMostRelevant p.allowRules d.sourceNamespace d.targetNamespace i)
      (hshown : ShowsOnly p d.targetNamespace i types) (hunseen : d.targetType ∉ types) :
      Declares p d ⟨.hidden types, some i⟩

theorem isEmpty_eq_true_iff (types : TypeNames) : types.isEmpty = true ↔ types = .empty := by
  obtain ⟨names, ascending⟩ := types
  simp [TypeNames.isEmpty, TypeNames.empty]

theorem exists_allow_of_isMostRelevant {p : Policy} {source target : Domain} {i : Nat}
    (h : IsMostRelevant p.allowRules source target i) : ∃ a, p.allow[i]? = some a := by
  obtain ⟨r, hr, -⟩ := h
  rw [Policy.allowRules, List.getElem?_map, Option.map_eq_some_iff] at hr
  obtain ⟨a, ha, -⟩ := hr
  exact ⟨a, ha⟩

section UniqueEntries

variable {p : Policy} (hp : (p.visibleMembers.map (·.1)).Nodup)

include hp

theorem membersOf_eq_some_iff (ns : Domain) (types : TypeNames) :
    p.membersOf ns = some types ↔ (ns, types) ∈ p.visibleMembers := by
  simp only [Policy.membersOf, Option.map_eq_some_iff]
  constructor
  · rintro ⟨⟨key, found⟩, hfind, rfl⟩
    have hkey : key = ns := by simpa using List.find?_some hfind
    subst hkey
    exact List.mem_of_find?_eq_some hfind
  · intro hmem
    cases hfind : p.visibleMembers.find? fun entry => entry.1 == ns with
    | none =>
        have hnot := List.find?_eq_none.mp hfind _ hmem
        simp at hnot
    | some entry =>
        have hkey : entry.1 = ns := by simpa using List.find?_some hfind
        have heq := List.inj_on_of_nodup_map hp (List.mem_of_find?_eq_some hfind) hmem hkey
        exact ⟨entry, rfl, by rw [heq]⟩

theorem visibleThrough_eq_some_iff {i : Nat} {a : AllowRule} (ha : p.allow[i]? = some a)
    (target : Domain) (types : TypeNames) :
    p.visibleThrough a target = some types ↔ ShowsOnly p target i types := by
  simp only [Policy.visibleThrough, ShowsOnly, ha, Option.some.injEq, exists_eq_left']
  cases hempty : a.visible.isEmpty with
  | true =>
      have hvisible := (isEmpty_eq_true_iff _).mp hempty
      simp only [Bool.not_true, Bool.false_eq_true, if_false, Option.filter_eq_some_iff,
        membersOf_eq_some_iff hp, hvisible, ne_eq, not_true_eq_false, false_and, true_and,
        false_or, Bool.not_eq_true', ← Bool.not_eq_true, isEmpty_eq_true_iff]
  | false =>
      have hvisible : a.visible ≠ .empty := by
        rw [Ne, ← isEmpty_eq_true_iff, hempty]
        exact Bool.false_ne_true
      simp [hvisible, eq_comm]

theorem verdictOfRule_of_seen {i : Nat} {a : AllowRule} (ha : p.allow[i]? = some a)
    {d : TypeDependency}
    (hseen : ∀ types, ShowsOnly p d.targetNamespace i types → d.targetType ∈ types) :
    p.verdictOfRule i d = ⟨.allowed, some i⟩ := by
  simp only [Policy.verdictOfRule, ha, Option.bind_some]
  cases hthrough : p.visibleThrough a d.targetNamespace with
  | none => rfl
  | some types =>
      have hmem := hseen types ((visibleThrough_eq_some_iff hp ha _ _).mp hthrough)
      exact if_pos (TypeNames.contains_eq_true.mpr hmem)

theorem verdictOfRule_of_hidden {i : Nat} {d : TypeDependency} {types : TypeNames}
    (hshown : ShowsOnly p d.targetNamespace i types) (hunseen : d.targetType ∉ types) :
    p.verdictOfRule i d = ⟨.hidden types, some i⟩ := by
  obtain ⟨a, ha, -⟩ := id hshown
  have hthrough := (visibleThrough_eq_some_iff hp ha _ _).mpr hshown
  simp only [Policy.verdictOfRule, ha, Option.bind_some, hthrough]
  exact if_neg fun hcontains => hunseen (TypeNames.contains_eq_true.mp hcontains)

end UniqueEntries

section Precedence

variable {p : Policy} {d : TypeDependency}

theorem any_covers_iff :
    p.disallow.any (·.covers d.sourceNamespace d.targetNamespace) = true ↔ Forbidden p d :=
  List.any_eq_true

theorem typeVerdict_of_forbidden (hother : d.sourceNamespace ≠ d.targetNamespace)
    (hforbidden : Forbidden p d) : p.typeVerdict d = ⟨.disallowed, none⟩ := by
  simp only [Policy.typeVerdict]
  rw [if_neg hother, if_pos (any_covers_iff.mpr hforbidden)]

theorem typeVerdict_of_related (hother : d.sourceNamespace ≠ d.targetNamespace)
    (hfree : ¬ Forbidden p d) (hrelated : Related p d) :
    p.typeVerdict d = ⟨.allowed, none⟩ := by
  simp only [Policy.typeVerdict]
  rw [if_neg hother, if_neg (mt any_covers_iff.mp hfree)]
  rcases hrelated with ⟨hchild, hancestor⟩ | ⟨hparent, hancestor⟩
  · rw [if_pos (by rw [hchild, (isBelow_eq_true_iff _ _).mpr hancestor]; rfl)]
  · split
    · rfl
    · rw [if_pos (by rw [hparent, (isBelow_eq_true_iff _ _).mpr hancestor]; rfl)]

theorem typeVerdict_of_strangers (hother : d.sourceNamespace ≠ d.targetNamespace)
    (hfree : ¬ Forbidden p d) (hstrangers : ¬ Related p d) :
    p.typeVerdict d =
      (mostRelevant p.allowRules d.sourceNamespace d.targetNamespace).elim ⟨.disallowed, none⟩
        fun i => p.verdictOfRule i d := by
  simp only [Related, not_or, ← isBelow_eq_true_iff, ← Bool.and_eq_true] at hstrangers
  simp only [Policy.typeVerdict]
  rw [if_neg hother, if_neg (mt any_covers_iff.mp hfree), if_neg hstrangers.1,
    if_neg hstrangers.2]
  cases mostRelevant p.allowRules d.sourceNamespace d.targetNamespace <;> rfl

theorem exists_declares (p : Policy) (d : TypeDependency) : ∃ v, Declares p d v := by
  by_cases hsame : d.sourceNamespace = d.targetNamespace
  · exact ⟨_, .inside hsame⟩
  by_cases hforbidden : Forbidden p d
  · exact ⟨_, .forbidden hsame hforbidden⟩
  by_cases hrelated : Related p d
  · exact ⟨_, .related hsame hforbidden hrelated⟩
  cases hrule : mostRelevant p.allowRules d.sourceNamespace d.targetNamespace with
  | none => exact ⟨_, .unmatched hsame hforbidden hrelated ((mostRelevant_eq_none_iff ..).mp hrule)⟩
  | some i =>
      have hbest := (mostRelevant_eq_some_iff ..).mp hrule
      by_cases hseen : ∀ types, ShowsOnly p d.targetNamespace i types → d.targetType ∈ types
      · exact ⟨_, .allowed hsame hforbidden hrelated hbest hseen⟩
      · push Not at hseen
        obtain ⟨types, hshown, hunseen⟩ := hseen
        exact ⟨_, .hidden hsame hforbidden hrelated hbest hshown hunseen⟩

theorem typeVerdict_of_declares (hp : (p.visibleMembers.map (·.1)).Nodup) {v : Verdict}
    (h : Declares p d v) : p.typeVerdict d = v := by
  cases h with
  | inside hsame => exact if_pos hsame
  | forbidden hother hforbidden => exact typeVerdict_of_forbidden hother hforbidden
  | related hother hfree hrelated => exact typeVerdict_of_related hother hfree hrelated
  | unmatched hother hfree hstrangers hnone =>
      rw [typeVerdict_of_strangers hother hfree hstrangers,
        (mostRelevant_eq_none_iff ..).mpr hnone, Option.elim_none]
  | @allowed i hother hfree hstrangers hrule hseen =>
      rw [typeVerdict_of_strangers hother hfree hstrangers,
        (mostRelevant_eq_some_iff ..).mpr hrule, Option.elim_some]
      obtain ⟨a, ha⟩ := exists_allow_of_isMostRelevant hrule
      exact verdictOfRule_of_seen hp ha hseen
  | hidden hother hfree hstrangers hrule hshown hunseen =>
      rw [typeVerdict_of_strangers hother hfree hstrangers,
        (mostRelevant_eq_some_iff ..).mpr hrule, Option.elim_some]
      exact verdictOfRule_of_hidden hp hshown hunseen

theorem typeVerdict_eq_iff_declares (hp : (p.visibleMembers.map (·.1)).Nodup) (v : Verdict) :
    p.typeVerdict d = v ↔ Declares p d v := by
  refine ⟨?_, typeVerdict_of_declares hp⟩
  rintro rfl
  obtain ⟨v, hv⟩ := exists_declares p d
  rwa [typeVerdict_of_declares hp hv]

end Precedence

/-- However a draft was edited, the policy it is completed to gives on every dependency between
types the verdict that is declared, and no other. -/
theorem typeVerdict_complete_eq_iff (edits : List Edit) (d : TypeDependency) (v : Verdict) :
    (Draft.ofEdits edits).complete.typeVerdict d = v ↔
      Declares (Draft.ofEdits edits).complete d v :=
  typeVerdict_eq_iff_declares (sound_ofEdits edits).visibleMembers v

end NamespacePolicy.Proofs.Verdicts
