import NamespacePolicy.Proofs.Drafts
import NamespacePolicy.Proofs.RuleSelection
import NamespacePolicy.Proofs.Verdicts

/-!
Items of a policy are local.  An edit that adds one item to a draft changes the verdict on a
dependency only if the item covers it: an item for types changes no verdict on assemblies, and the
other way round.  A rule given again widens its own types, where it stands, and no other rule's.
-/

namespace NamespacePolicy.Proofs.Locality

open Accumulation Drafts RuleSelection Verdicts

/-- The dependencies between types whose verdict an edit may change. -/
def CoversTypes : Edit → TypeDependency → Prop
  | .setChildMayUseParent _, _ | .setParentMayUseChild _, _ | .combine _, _ => True
  | .addAllow rule _, d | .addDisallow rule, d =>
      rule.covers d.sourceNamespace d.targetNamespace = true
  | .addVisible ns _, d => d.targetNamespace = ns
  | _, _ => False

/-- The dependencies between assemblies whose verdict an edit may change. -/
def CoversAssemblies : Edit → AssemblyDependency → Prop
  | .combine _, _ => True
  | .addAllowAssembly rule, d | .addDisallowAssembly rule, d =>
      rule.covers d.source d.target = true
  | _, _ => False

section Lists

variable {rules : List Rule} {rule : Rule} {source target : Domain}

theorem any_covers_addNew (rules : List Rule) (rule : Rule) (source target : Domain) :
    (addNew rules rule).any (·.covers source target) =
      (rules.any (·.covers source target) || rule.covers source target) := by
  rw [addNew]
  split
  · next hmem =>
    cases hrule : rule.covers source target with
    | false => rw [Bool.or_false]
    | true => rw [Bool.or_true, List.any_eq_true.mpr ⟨rule, hmem, hrule⟩]
  · simp

theorem isMostRelevant_snoc_iff (hrule : rule.covers source target = false) (i : Nat) :
    IsMostRelevant (rules ++ [rule]) source target i ↔ IsMostRelevant rules source target i := by
  -- A rule that covers the pair stands in the longer list where it stands in the shorter one.
  have hstands : ∀ (r : Rule) (j : Nat), r.covers source target = true →
      ((rules ++ [rule])[j]? = some r ↔ rules[j]? = some r) := by
    intro r j hr
    rw [getElem?_snoc_eq_some_iff, or_iff_left]
    rintro ⟨-, rfl⟩
    simp [hrule] at hr
  constructor
  · rintro ⟨r, hr, hcovers, hbest⟩
    refine ⟨r, (hstands r i hcovers).mp hr, hcovers, fun j other hother hc => ?_⟩
    exact hbest j other ((hstands other j hc).mpr hother) hc
  · rintro ⟨r, hr, hcovers, hbest⟩
    refine ⟨r, (hstands r i hcovers).mpr hr, hcovers, fun j other hother hc => ?_⟩
    exact hbest j other ((hstands other j hc).mp hother) hc

theorem mostRelevant_addNew (hrule : rule.covers source target = false) :
    mostRelevant (addNew rules rule) source target = mostRelevant rules source target := by
  rw [addNew]
  split
  · rfl
  · apply Option.ext
    intro i
    rw [mostRelevant_eq_some_iff, mostRelevant_eq_some_iff, isMostRelevant_snoc_iff hrule]

variable {κ : Type} [DecidableEq κ] {rows : List (κ × TypeNames)} {key : κ}

theorem getElem?_addTypes_of_ne {row : κ × TypeNames} {i : Nat} (h : rows[i]? = some row)
    (hne : row.1 ≠ key) (types : TypeNames) : (addTypes key types rows)[i]? = some row := by
  induction rows generalizing i with
  | nil => simp at h
  | cons entry rest ih =>
      rw [addTypes]
      cases i with
      | zero =>
          obtain rfl : entry = row := by simpa using h
          rw [if_neg hne, List.getElem?_cons_zero]
      | succ i =>
          rw [List.getElem?_cons_succ] at h
          split
          · exact h
          · exact ih h

theorem find?_addTypes_of_ne {other : κ} (hne : other ≠ key) (types : TypeNames) :
    (addTypes key types rows).find? (fun entry => entry.1 == other) =
      rows.find? fun entry => entry.1 == other := by
  induction rows with
  | nil => simp [addTypes, hne.symm]
  | cons entry rest ih =>
      rw [addTypes]
      split
      · next hkey => simp [hkey, hne.symm]
      · rw [List.find?_cons, List.find?_cons, ih]

end Lists

section Types

variable {p q : Policy} {d : TypeDependency}

theorem verdictOfRule_congr {i : Nat} (hallow : p.allow[i]? = q.allow[i]?)
    (hmembers : p.membersOf d.targetNamespace = q.membersOf d.targetNamespace) :
    p.verdictOfRule i d = q.verdictOfRule i d := by
  simp only [Policy.verdictOfRule, Policy.visibleThrough, hallow, hmembers]

/-- What the verdict on a dependency between types hangs on. -/
theorem typeVerdict_congr
    (hdisallow : p.disallow.any (·.covers d.sourceNamespace d.targetNamespace) =
      q.disallow.any (·.covers d.sourceNamespace d.targetNamespace))
    (hchild : p.childMayUseParent = q.childMayUseParent)
    (hparent : p.parentMayUseChild = q.parentMayUseChild)
    (hrule : mostRelevant p.allowRules d.sourceNamespace d.targetNamespace =
      mostRelevant q.allowRules d.sourceNamespace d.targetNamespace)
    (hverdict : ∀ i, IsMostRelevant p.allowRules d.sourceNamespace d.targetNamespace i →
      p.verdictOfRule i d = q.verdictOfRule i d) :
    p.typeVerdict d = q.typeVerdict d := by
  simp only [Policy.typeVerdict, hdisallow, hchild, hparent, ← hrule]
  cases hbest : mostRelevant p.allowRules d.sourceNamespace d.targetNamespace with
  | none => rfl
  | some i => simp only [hverdict i (isMostRelevant_of_mostRelevant hbest)]

variable {b : Draft}

theorem typeVerdict_addAllow (hb : Sound b) {rule : Rule}
    (hrule : rule.covers d.sourceNamespace d.targetNamespace = false) (types : TypeNames) :
    (b.addAllow rule types).complete.typeVerdict d = b.complete.typeVerdict d := by
  have hrows : (b.addAllow rule types).allow.rows = addTypes rule types b.allow.rows :=
    rows_add hb.allow rule types
  symm
  refine typeVerdict_congr (q := (b.addAllow rule types).complete) rfl rfl rfl ?_ ?_
  · rw [complete_allowRules, complete_allowRules, hrows, keys_addTypes, mostRelevant_addNew hrule]
  · rintro i ⟨r, hr, hcovers, -⟩
    refine verdictOfRule_congr ?_ rfl
    rw [complete_allowRules, List.getElem?_map, Option.map_eq_some_iff] at hr
    obtain ⟨row, hrow, rfl⟩ := hr
    have hne : row.1 ≠ rule := by
      rintro rfl
      simp [hrule] at hcovers
    simp only [Draft.complete, List.getElem?_map, hrows, hrow,
      getElem?_addTypes_of_ne hrow hne types]

theorem typeVerdict_addDisallow {rule : Rule}
    (hrule : rule.covers d.sourceNamespace d.targetNamespace = false) (b : Draft) :
    (b.addDisallow rule).complete.typeVerdict d = b.complete.typeVerdict d := by
  have hany := any_covers_addNew b.disallow rule d.sourceNamespace d.targetNamespace
  rw [hrule, Bool.or_false] at hany
  exact typeVerdict_congr hany rfl rfl rfl fun _ _ => rfl

theorem typeVerdict_addDisallow_of_covers {rule : Rule}
    (hrule : rule.covers d.sourceNamespace d.targetNamespace = true)
    (hother : d.sourceNamespace ≠ d.targetNamespace) (b : Draft) :
    (b.addDisallow rule).complete.typeVerdict d = ⟨.disallowed, none⟩ := by
  have hany := any_covers_addNew b.disallow rule d.sourceNamespace d.targetNamespace
  rw [hrule, Bool.or_true] at hany
  exact typeVerdict_of_forbidden hother (any_covers_iff.mp hany)

theorem typeVerdict_addVisible {ns : Domain} (hns : d.targetNamespace ≠ ns) (b : Draft)
    (types : TypeNames) :
    (b.addVisible ns types).complete.typeVerdict d = b.complete.typeVerdict d := by
  refine typeVerdict_congr rfl rfl rfl rfl fun i _ => verdictOfRule_congr rfl ?_
  exact congrArg (Option.map (·.2)) (find?_addTypes_of_ne hns types)

theorem typeVerdict_edit (hb : Sound b) (e : Edit) (h : ¬ CoversTypes e d) :
    (b.edit e).complete.typeVerdict d = b.complete.typeVerdict d := by
  cases e with
  | addAllow rule types => exact typeVerdict_addAllow hb (Bool.eq_false_iff.mpr h) types
  | addDisallow rule => exact typeVerdict_addDisallow (Bool.eq_false_iff.mpr h) b
  | addVisible ns types => exact typeVerdict_addVisible h b types
  | setChildMayUseParent value => exact absurd trivial h
  | setParentMayUseChild value => exact absurd trivial h
  | combine edits => exact absurd trivial h
  | _ => rfl

end Types

section Assemblies

variable {p q : Policy} {d : AssemblyDependency}

theorem assemblyVerdict_congr
    (hdisallow : p.disallowAssembly.any (·.covers d.source d.target) =
      q.disallowAssembly.any (·.covers d.source d.target))
    (hrule : mostRelevant p.allowAssembly d.source d.target =
      mostRelevant q.allowAssembly d.source d.target) :
    p.assemblyVerdict d = q.assemblyVerdict d := by
  simp only [Policy.assemblyVerdict, hdisallow, hrule]

theorem assemblyVerdict_addDisallowAssembly {rule : Rule}
    (hrule : rule.covers d.source d.target = false) (b : Draft) :
    (b.addDisallowAssembly rule).complete.assemblyVerdict d = b.complete.assemblyVerdict d := by
  have hany := any_covers_addNew b.disallowAssembly rule d.source d.target
  rw [hrule, Bool.or_false] at hany
  exact assemblyVerdict_congr hany rfl

theorem assemblyVerdict_addDisallowAssembly_of_covers {rule : Rule}
    (hrule : rule.covers d.source d.target = true) (hother : d.source ≠ d.target) (b : Draft) :
    (b.addDisallowAssembly rule).complete.assemblyVerdict d = ⟨.disallowed, none⟩ := by
  have hany := any_covers_addNew b.disallowAssembly rule d.source d.target
  rw [hrule, Bool.or_true] at hany
  rw [Policy.assemblyVerdict, if_neg (by simpa [AssemblyDependency.isInternal] using hother)]
  exact if_pos hany

theorem assemblyVerdict_edit (b : Draft) (e : Edit) (h : ¬ CoversAssemblies e d) :
    (b.edit e).complete.assemblyVerdict d = b.complete.assemblyVerdict d := by
  cases e with
  | addAllowAssembly rule =>
      exact assemblyVerdict_congr rfl (mostRelevant_addNew (Bool.eq_false_iff.mpr h))
  | addDisallowAssembly rule =>
      exact assemblyVerdict_addDisallowAssembly (Bool.eq_false_iff.mpr h) b
  | combine edits => exact absurd trivial h
  | _ => rfl

end Assemblies

/-- However a draft came about, one more edit leaves every verdict that it does not cover as it
was, and what a new disallow rule covers is disallowed. -/
theorem verdicts_edit_local (edits : List Edit) :
    let b := Draft.ofEdits edits
    (∀ e d, ¬ CoversTypes e d →
      (b.edit e).complete.typeVerdict d = b.complete.typeVerdict d) ∧
    (∀ e d, ¬ CoversAssemblies e d →
      (b.edit e).complete.assemblyVerdict d = b.complete.assemblyVerdict d) ∧
    (∀ (rule : Rule) (d : TypeDependency),
      rule.covers d.sourceNamespace d.targetNamespace = true →
      d.sourceNamespace ≠ d.targetNamespace →
      (b.addDisallow rule).complete.typeVerdict d = ⟨.disallowed, none⟩) ∧
    (∀ (rule : Rule) (d : AssemblyDependency),
      rule.covers d.source d.target = true → d.source ≠ d.target →
      (b.addDisallowAssembly rule).complete.assemblyVerdict d = ⟨.disallowed, none⟩) := by
  intro b
  have hb : Sound b := sound_ofEdits edits
  exact ⟨fun e _ => typeVerdict_edit hb e, fun e _ => assemblyVerdict_edit b e,
    fun _ _ hrule hother => typeVerdict_addDisallow_of_covers hrule hother b,
    fun _ _ hrule hother => assemblyVerdict_addDisallowAssembly_of_covers hrule hother b⟩

/-- A rule given again shows more types of its own target, and another rule's stay as they were. -/
theorem widened_rule_local :
    let uses (source target : String) : Rule := ⟨.exact ⟨source⟩, .exact ⟨target⟩⟩
    let b := Draft.ofEdits
      [.addAllow (uses "A" "B") (.ofList ["X"]), .addAllow (uses "A" "C") (.ofList ["X"])]
    let widen := Edit.addAllow (uses "A" "B") (.ofList ["Y"])
    let covered : TypeDependency := ⟨⟨"A"⟩, "S", ⟨"B"⟩, "Y"⟩
    let other : TypeDependency := ⟨⟨"A"⟩, "S", ⟨"C"⟩, "Y"⟩
    (b.edit widen).complete.typeVerdict covered ≠ b.complete.typeVerdict covered ∧
      ¬ CoversTypes widen other ∧
      (b.edit widen).complete.typeVerdict other = b.complete.typeVerdict other := by
  intro uses b widen covered other
  have hother : ¬ CoversTypes widen other := by
    change ¬ (uses "A" "B").covers ⟨"A"⟩ ⟨"C"⟩ = true
    decide
  exact ⟨by decide, hother, (verdicts_edit_local _).1 widen other hother⟩

end NamespacePolicy.Proofs.Locality
