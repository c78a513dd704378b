import NamespacePolicy.Policy.Edit
import NamespacePolicy.Proofs.Accumulation

/-!
What holds of every draft.  However a draft was edited, nothing is listed twice in it, and its
index finds every allow rule; so the policies completed from drafts list nothing twice either.
-/

namespace NamespacePolicy.Proofs.Drafts

open Accumulation

theorem foldl_update {α β : Type} (get : Draft → β) (put : Draft → β → Draft)
    (op : β → α → β) (add : Draft → α → Draft)
    (hadd : ∀ d item, add d item = put d (op (get d) item))
    (hget : ∀ d part, get (put d part) = part)
    (hput : ∀ d part part', put (put d part) part' = put d part')
    (hself : ∀ d, put d (get d) = d) (items : List α) (d : Draft) :
    items.foldl add d = put d (items.foldl op (get d)) := by
  induction items generalizing d with
  | nil => exact (hself d).symm
  | cons item rest ih => rw [List.foldl_cons, ih, hadd, hget, hput, List.foldl_cons]

theorem foldl_addAllow (rows : List (Rule × TypeNames)) (d : Draft) :
    rows.foldl (fun d (rule, types) => d.addAllow rule types) d =
      { d with allow := rows.foldl (fun t row => t.add row.1 row.2) d.allow } :=
  foldl_update (·.allow) (fun d part => { d with allow := part })
    (fun t row => t.add row.1 row.2) (fun d (rule, types) => d.addAllow rule types)
    (fun _ _ => rfl) (fun _ _ => rfl) (fun _ _ _ => rfl) (fun _ => rfl) rows d

theorem foldl_addDisallow (rules : List Rule) (d : Draft) :
    rules.foldl Draft.addDisallow d = { d with disallow := rules.foldl addNew d.disallow } :=
  foldl_update (·.disallow) (fun d part => { d with disallow := part }) _ _
    (fun _ _ => rfl) (fun _ _ => rfl) (fun _ _ _ => rfl) (fun _ => rfl) rules d

theorem foldl_addVisible (rows : List (Domain × TypeNames)) (d : Draft) :
    rows.foldl (fun d (ns, types) => d.addVisible ns types) d =
      { d with visibleMembers := rows.foldl addRow d.visibleMembers } :=
  foldl_update (·.visibleMembers) (fun d part => { d with visibleMembers := part })
    addRow (fun d (ns, types) => d.addVisible ns types)
    (fun _ _ => rfl) (fun _ _ => rfl) (fun _ _ _ => rfl) (fun _ => rfl) rows d

theorem foldl_addAllowAssembly (rules : List Rule) (d : Draft) :
    rules.foldl Draft.addAllowAssembly d =
      { d with allowAssembly := rules.foldl addNew d.allowAssembly } :=
  foldl_update (·.allowAssembly) (fun d part => { d with allowAssembly := part }) _ _
    (fun _ _ => rfl) (fun _ _ => rfl) (fun _ _ _ => rfl) (fun _ => rfl) rules d

theorem foldl_addDisallowAssembly (rules : List Rule) (d : Draft) :
    rules.foldl Draft.addDisallowAssembly d =
      { d with disallowAssembly := rules.foldl addNew d.disallowAssembly } :=
  foldl_update (·.disallowAssembly) (fun d part => { d with disallowAssembly := part }) _ _
    (fun _ _ => rfl) (fun _ _ => rfl) (fun _ _ _ => rfl) (fun _ => rfl) rules d

/-- Merging works on every part of a draft by itself. -/
theorem combine_eq (d other : Draft) :
    d.combine other =
      { enabled := other.enabled <|> d.enabled
        childMayUseParent := other.childMayUseParent <|> d.childMayUseParent
        parentMayUseChild := other.parentMayUseChild <|> d.parentMayUseChild
        maxIssues := other.maxIssues <|> d.maxIssues
        dependencySeverity := other.dependencySeverity <|> d.dependencySeverity
        limitSeverity := other.limitSeverity <|> d.limitSeverity
        checkAssemblies := other.checkAssemblies <|> d.checkAssemblies
        excluded := other.excluded.foldl addNew d.excluded
        allow := other.allow.rows.foldl (fun t row => t.add row.1 row.2) d.allow
        disallow := other.disallow.foldl addNew d.disallow
        visibleMembers := other.visibleMembers.foldl addRow d.visibleMembers
        allowAssembly := other.allowAssembly.foldl addNew d.allowAssembly
        disallowAssembly := other.disallowAssembly.foldl addNew d.disallowAssembly } := by
  simp only [Draft.combine, foldl_addAllow, foldl_addDisallow, foldl_addVisible,
    foldl_addAllowAssembly, foldl_addDisallowAssembly]
  rfl

/-- No part of the draft lists anything twice, and its index finds every allow rule. -/
structure Sound (d : Draft) : Prop where
  excluded : d.excluded.Nodup
  allow : Indexed d.allow
  disallow : d.disallow.Nodup
  visibleMembers : (d.visibleMembers.map (·.1)).Nodup
  allowAssembly : d.allowAssembly.Nodup
  disallowAssembly : d.disallowAssembly.Nodup

theorem sound_empty : Sound .empty :=
  ⟨.nil, indexed_empty, .nil, .nil, .nil, .nil⟩

theorem keys_foldl_addRow_nodup {κ : Type} [DecidableEq κ] {acc : List (κ × TypeNames)}
    (h : (acc.map (·.1)).Nodup) (rows : List (κ × TypeNames)) :
    ((rows.foldl addRow acc).map (·.1)).Nodup := by
  rw [keys_foldl_addRow]
  exact foldl_addNew_nodup h _

theorem Sound.combine {d : Draft} (h : Sound d) (other : Draft) : Sound (d.combine other) := by
  rw [combine_eq]
  exact
    { excluded := foldl_addNew_nodup h.excluded _
      allow := (foldl_add h.allow _).1
      disallow := foldl_addNew_nodup h.disallow _
      visibleMembers := keys_foldl_addRow_nodup h.visibleMembers _
      allowAssembly := foldl_addNew_nodup h.allowAssembly _
      disallowAssembly := foldl_addNew_nodup h.disallowAssembly _ }

theorem Sound.edit {d : Draft} (h : Sound d) (e : Edit) : Sound (d.edit e) := by
  cases e with
  | addExcluded globs => exact { h with excluded := foldl_addNew_nodup h.excluded globs }
  | addAllow rule types => exact { h with allow := indexed_add h.allow rule types }
  | addDisallow rule => exact { h with disallow := addNew_nodup h.disallow rule }
  | addVisible ns types =>
      exact { h with visibleMembers := keys_foldl_addRow_nodup h.visibleMembers [(ns, types)] }
  | addAllowAssembly rule => exact { h with allowAssembly := addNew_nodup h.allowAssembly rule }
  | addDisallowAssembly rule =>
      exact { h with disallowAssembly := addNew_nodup h.disallowAssembly rule }
  | combine edits => exact h.combine _
  | _ => exact { h with }

theorem Sound.editAll {d : Draft} (h : Sound d) (edits : List Edit) :
    Sound (d.editAll edits) := by
  induction edits generalizing d with
  | nil => exact h
  | cons e rest ih => exact ih (h.edit e)

theorem sound_ofEdits (edits : List Edit) : Sound (.ofEdits edits) :=
  sound_empty.editAll edits

section Completed

variable {d : Draft}

theorem complete_allowRules (d : Draft) : d.complete.allowRules = d.allow.rows.map (·.1) := by
  simp [Policy.allowRules, Draft.complete, Function.comp_def]

theorem Sound.allowRules_nodup (h : Sound d) : d.complete.allowRules.Nodup := by
  rw [complete_allowRules]
  exact h.allow.nodup

end Completed

end NamespacePolicy.Proofs.Drafts
