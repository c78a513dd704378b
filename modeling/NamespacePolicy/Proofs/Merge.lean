import Mathlib.Data.List.Forall2
import NamespacePolicy.Proofs.Drafts
import NamespacePolicy.Proofs.Verdicts

/-!
Merging levels in closed form.  Levels are merged one by one, from the most general one to the most
specific one; what comes out is said here of all levels at once.  In which order a level gives its
visible members makes no difference.
-/

namespace NamespacePolicy.Proofs.Merge

open Accumulation Drafts Verdicts

/-- The value of the last level that gives one. -/
def lastGiven {α : Type} (value : Draft → Option α) (levels : List Draft) : Option α :=
  (levels.filterMap value).getLast?

/-- The policy that merged levels amount to. -/
structure IsMergeOf (levels : List Draft) (p : Policy) : Prop where
  enabled : p.enabled = (lastGiven (·.enabled) levels).getD true
  childMayUseParent : p.childMayUseParent = (lastGiven (·.childMayUseParent) levels).getD false
  parentMayUseChild : p.parentMayUseChild = (lastGiven (·.parentMayUseChild) levels).getD false
  maxIssues : p.maxIssues = (lastGiven (·.maxIssues) levels).getD 100
  dependencySeverity :
    p.dependencySeverity = (lastGiven (·.dependencySeverity) levels).getD .warning
  limitSeverity : p.limitSeverity = (lastGiven (·.limitSeverity) levels).getD .warning
  checkAssemblies : p.checkAssemblies = (lastGiven (·.checkAssemblies) levels).getD false
  excluded : p.excluded = (levels.flatMap (·.excluded)).eraseDups
  allowRules : p.allowRules = (levels.flatMap fun l => l.allow.rows.map (·.1)).eraseDups
  allowTypes : ∀ a ∈ p.allow, ∀ name,
    name ∈ a.visible ↔ ∃ l ∈ levels, Shows l.allow.rows a.rule name
  disallow : p.disallow = (levels.flatMap (·.disallow)).eraseDups
  namespaces_nodup : (p.visibleMembers.map (·.1)).Nodup
  namespaces : ∀ ns,
    (p.membersOf ns).isSome ↔ ∃ l ∈ levels, ns ∈ l.visibleMembers.map (·.1)
  members : ∀ ns types, p.membersOf ns = some types → ∀ name,
    name ∈ types ↔ ∃ l ∈ levels, Shows l.visibleMembers ns name
  allowAssembly : p.allowAssembly = (levels.flatMap (·.allowAssembly)).eraseDups
  disallowAssembly : p.disallowAssembly = (levels.flatMap (·.disallowAssembly)).eraseDups

/-- The same draft, with its visible members given in another order. -/
def Reordered (a b : Draft) : Prop :=
  ∃ rows, a.visibleMembers.Perm rows ∧ b = { a with visibleMembers := rows }

/-- What merging does to one part of a draft, it does for all levels together. -/
theorem foldl_combine {α β : Type} (get : Draft → β) (items : Draft → List α) (op : β → α → β)
    (hcombine : ∀ d, Sound d → ∀ other, get (d.combine other) = (items other).foldl op (get d))
    {d : Draft} (hd : Sound d) (levels : List Draft) :
    get (levels.foldl Draft.combine d) = (levels.flatMap items).foldl op (get d) := by
  induction levels generalizing d with
  | nil => rfl
  | cons level rest ih =>
      rw [List.foldl_cons, ih (hd.combine level), hcombine d hd, List.flatMap_cons,
        List.foldl_append]

theorem foldl_combine_sound {d : Draft} (hd : Sound d) (levels : List Draft) :
    Sound (levels.foldl Draft.combine d) := by
  induction levels generalizing d with
  | nil => exact hd
  | cons level rest ih => exact ih (hd.combine level)

theorem foldl_last {α : Type} (values : List α) (start : Option α) :
    values.foldl (fun _ value => some value) start = (values.getLast? <|> start) := by
  induction values generalizing start with
  | nil => rfl
  | cons value rest ih =>
      rw [List.foldl_cons, ih, List.getLast?_cons]
      cases rest.getLast? <;> rfl

theorem foldl_combine_given {α : Type} (value : Draft → Option α)
    (hcombine : ∀ d other, value (d.combine other) = (value other <|> value d))
    (levels : List Draft) (hempty : value .empty = none) :
    value (levels.foldl Draft.combine .empty) = lastGiven value levels := by
  have hfold := foldl_combine value (fun l => (value l).toList) (fun _ x => some x)
    (fun d _ other => by rw [hcombine]; cases value other <;> rfl) sound_empty levels
  rw [hfold, hempty, foldl_last, lastGiven, List.filterMap_eq_flatMap_toList]
  simp

theorem foldl_combine_listed {α : Type} [DecidableEq α] (items : Draft → List α)
    (hcombine : ∀ d other, items (d.combine other) = (items other).foldl addNew (items d))
    (levels : List Draft) (hempty : items .empty = []) :
    items (levels.foldl Draft.combine .empty) = (levels.flatMap items).eraseDups := by
  rw [foldl_combine items items addNew (fun d _ => hcombine d) sound_empty levels, hempty,
    foldl_addNew_nil]

theorem foldl_combine_rows (levels : List Draft) :
    (levels.foldl Draft.combine .empty).allow.rows =
      (levels.flatMap (·.allow.rows)).foldl addRow [] :=
  foldl_combine (·.allow.rows) (·.allow.rows) addRow
    (fun d hd other => by rw [combine_eq]; exact (foldl_add hd.allow _).2) sound_empty levels

theorem foldl_combine_visibleMembers (levels : List Draft) :
    (levels.foldl Draft.combine .empty).visibleMembers =
      (levels.flatMap (·.visibleMembers)).foldl addRow [] :=
  foldl_combine (·.visibleMembers) (·.visibleMembers) addRow
    (fun d _ other => by rw [combine_eq]) sound_empty levels

theorem keys_foldl_addRow_nil {κ : Type} [DecidableEq κ] (rows : List (κ × TypeNames)) :
    (rows.foldl addRow []).map (·.1) = (rows.map (·.1)).eraseDups := by
  rw [keys_foldl_addRow, List.map_nil, foldl_addNew_nil]

theorem shows_flatMap {κ : Type} (levels : List Draft) (rows : Draft → List (κ × TypeNames))
    (key : κ) (name : String) :
    Shows (levels.flatMap rows) key name ↔ ∃ l ∈ levels, Shows (rows l) key name := by
  simp only [Shows, List.mem_flatMap]
  constructor
  · rintro ⟨types, ⟨l, hl, hmem⟩, hname⟩
    exact ⟨l, hl, types, hmem, hname⟩
  · rintro ⟨l, hl, types, hmem, hname⟩
    exact ⟨types, ⟨l, hl, hmem⟩, hname⟩

theorem mem_foldl_addRow_iff {κ : Type} [DecidableEq κ] {rows : List (κ × TypeNames)} {key : κ}
    {types : TypeNames} (h : (key, types) ∈ rows.foldl addRow []) (name : String) :
    name ∈ types ↔ Shows rows key name := by
  have hnil : (([] : List (κ × TypeNames)).map (·.1)).Nodup := .nil
  have hnodup := keys_foldl_addRow_nodup hnil rows
  rw [← shows_iff_of_nodup hnodup h, shows_foldl_addRow]
  simp [Shows]

theorem allowRules_foldl_combine (levels : List Draft) :
    (levels.foldl Draft.combine .empty).complete.allowRules =
      (levels.flatMap fun l => l.allow.rows.map (·.1)).eraseDups := by
  rw [complete_allowRules, foldl_combine_rows, keys_foldl_addRow_nil, List.map_flatMap]

theorem mem_visible_iff {levels : List Draft} {a : AllowRule}
    (ha : a ∈ (levels.foldl Draft.combine .empty).complete.allow) (name : String) :
    name ∈ a.visible ↔ ∃ l ∈ levels, Shows l.allow.rows a.rule name := by
  simp only [Draft.complete, List.mem_map] at ha
  obtain ⟨⟨rule, visible⟩, hrow, rfl⟩ := ha
  rw [foldl_combine_rows] at hrow
  rw [mem_foldl_addRow_iff hrow, shows_flatMap]

theorem membersOf_foldl_combine_isSome_iff (levels : List Draft) (ns : Domain) :
    ((levels.foldl Draft.combine .empty).complete.membersOf ns).isSome ↔
      ∃ l ∈ levels, ns ∈ l.visibleMembers.map (·.1) := by
  have hkeys : ns ∈ (levels.foldl Draft.combine .empty).visibleMembers.map (·.1) ↔
      ∃ l ∈ levels, ns ∈ l.visibleMembers.map (·.1) := by
    rw [foldl_combine_visibleMembers, keys_foldl_addRow_nil, List.mem_eraseDups,
      List.map_flatMap, List.mem_flatMap]
  rw [← hkeys]
  simp [Policy.membersOf, Draft.complete]

theorem mem_membersOf_foldl_combine_iff {levels : List Draft} {ns : Domain} {types : TypeNames}
    (h : (levels.foldl Draft.combine .empty).complete.membersOf ns = some types)
    (name : String) :
    name ∈ types ↔ ∃ l ∈ levels, Shows l.visibleMembers ns name := by
  have hnodup := (foldl_combine_sound sound_empty levels).visibleMembers
  have hrow : (ns, types) ∈ (levels.foldl Draft.combine .empty).visibleMembers :=
    (membersOf_eq_some_iff hnodup ns types).mp h
  rw [foldl_combine_visibleMembers] at hrow
  rw [mem_foldl_addRow_iff hrow, shows_flatMap]

theorem isMergeOf_self (levels : List Draft) :
    IsMergeOf levels (levels.foldl Draft.combine .empty).complete where
  enabled := by
    rw [← foldl_combine_given (·.enabled) (fun d other => by rw [combine_eq]) levels rfl]
    rfl
  childMayUseParent := by
    rw [← foldl_combine_given (·.childMayUseParent) (fun d other => by rw [combine_eq]) levels rfl]
    rfl
  parentMayUseChild := by
    rw [← foldl_combine_given (·.parentMayUseChild) (fun d other => by rw [combine_eq]) levels rfl]
    rfl
  maxIssues := by
    rw [← foldl_combine_given (·.maxIssues) (fun d other => by rw [combine_eq]) levels rfl]
    rfl
  dependencySeverity := by
    rw [← foldl_combine_given (·.dependencySeverity) (fun d other => by rw [combine_eq]) levels rfl]
    rfl
  limitSeverity := by
    rw [← foldl_combine_given (·.limitSeverity) (fun d other => by rw [combine_eq]) levels rfl]
    rfl
  checkAssemblies := by
    rw [← foldl_combine_given (·.checkAssemblies) (fun d other => by rw [combine_eq]) levels rfl]
    rfl
  excluded := foldl_combine_listed (·.excluded) (fun d other => by rw [combine_eq]) levels rfl
  allowRules := allowRules_foldl_combine levels
  allowTypes := fun _ ha name => mem_visible_iff ha name
  disallow := foldl_combine_listed (·.disallow) (fun d other => by rw [combine_eq]) levels rfl
  namespaces_nodup := (foldl_combine_sound sound_empty levels).visibleMembers
  namespaces := membersOf_foldl_combine_isSome_iff levels
  members := fun _ _ h name => mem_membersOf_foldl_combine_iff h name
  allowAssembly :=
    foldl_combine_listed (·.allowAssembly) (fun d other => by rw [combine_eq]) levels rfl
  disallowAssembly :=
    foldl_combine_listed (·.disallowAssembly) (fun d other => by rw [combine_eq]) levels rfl

section Orders

variable {levels orders : List Draft}

theorem map_eq_of_reordered {α : Type} (part : Draft → α)
    (hpart : ∀ d rows, part { d with visibleMembers := rows } = part d)
    (h : List.Forall₂ Reordered levels orders) : orders.map part = levels.map part := by
  induction h with
  | nil => rfl
  | cons hab _ ih =>
      obtain ⟨rows, -, rfl⟩ := hab
      rw [List.map_cons, List.map_cons, hpart, ih]

theorem lastGiven_eq_of_reordered {α : Type} (value : Draft → Option α)
    (hvalue : ∀ d rows, value { d with visibleMembers := rows } = value d)
    (h : List.Forall₂ Reordered levels orders) :
    lastGiven value orders = lastGiven value levels := by
  have hgiven : ∀ ls : List Draft, ls.filterMap value = (ls.map value).filterMap id := by
    intro ls
    rw [List.filterMap_map]
    rfl
  rw [lastGiven, lastGiven, hgiven, hgiven, map_eq_of_reordered value hvalue h]

theorem flatMap_eq_of_reordered {α : Type} (items : Draft → List α)
    (hitems : ∀ d rows, items { d with visibleMembers := rows } = items d)
    (h : List.Forall₂ Reordered levels orders) :
    orders.flatMap items = levels.flatMap items := by
  rw [List.flatMap_def, List.flatMap_def, map_eq_of_reordered items hitems h]

theorem exists_iff_of_reordered (holds : Draft → Prop)
    (hholds : ∀ a b, Reordered a b → (holds b ↔ holds a))
    (h : List.Forall₂ Reordered levels orders) :
    (∃ l ∈ orders, holds l) ↔ ∃ l ∈ levels, holds l := by
  induction h with
  | nil => rfl
  | cons hab _ ih => rw [List.exists_mem_cons_iff, List.exists_mem_cons_iff, hholds _ _ hab, ih]

theorem shows_iff_of_reordered (ns : Domain) (name : String) (a b : Draft) (h : Reordered a b) :
    Shows b.visibleMembers ns name ↔ Shows a.visibleMembers ns name := by
  obtain ⟨rows, hperm, rfl⟩ := h
  simp only [Shows, hperm.mem_iff]

theorem mem_keys_iff_of_reordered (ns : Domain) (a b : Draft) (h : Reordered a b) :
    ns ∈ b.visibleMembers.map (·.1) ↔ ns ∈ a.visibleMembers.map (·.1) := by
  obtain ⟨rows, hperm, rfl⟩ := h
  exact (hperm.map _).mem_iff.symm

theorem allowShows_iff_of_reordered (rule : Rule) (name : String) (a b : Draft)
    (h : Reordered a b) : Shows b.allow.rows rule name ↔ Shows a.allow.rows rule name := by
  obtain ⟨rows, -, rfl⟩ := h
  rfl

theorem IsMergeOf.of_reordered {p : Policy} (h : List.Forall₂ Reordered levels orders)
    (hp : IsMergeOf orders p) : IsMergeOf levels p where
  enabled := by rw [hp.enabled, lastGiven_eq_of_reordered _ (fun _ _ => rfl) h]
  childMayUseParent := by
    rw [hp.childMayUseParent, lastGiven_eq_of_reordered _ (fun _ _ => rfl) h]
  parentMayUseChild := by
    rw [hp.parentMayUseChild, lastGiven_eq_of_reordered _ (fun _ _ => rfl) h]
  maxIssues := by rw [hp.maxIssues, lastGiven_eq_of_reordered _ (fun _ _ => rfl) h]
  dependencySeverity := by
    rw [hp.dependencySeverity, lastGiven_eq_of_reordered _ (fun _ _ => rfl) h]
  limitSeverity := by rw [hp.limitSeverity, lastGiven_eq_of_reordered _ (fun _ _ => rfl) h]
  checkAssemblies := by rw [hp.checkAssemblies, lastGiven_eq_of_reordered _ (fun _ _ => rfl) h]
  excluded := by rw [hp.excluded, flatMap_eq_of_reordered _ (fun _ _ => rfl) h]
  allowRules := by rw [hp.allowRules, flatMap_eq_of_reordered _ (fun _ _ => rfl) h]
  allowTypes := by
    intro a ha name
    rw [hp.allowTypes a ha, exists_iff_of_reordered _ (allowShows_iff_of_reordered _ _) h]
  disallow := by rw [hp.disallow, flatMap_eq_of_reordered _ (fun _ _ => rfl) h]
  namespaces_nodup := hp.namespaces_nodup
  namespaces := by
    intro ns
    rw [hp.namespaces, exists_iff_of_reordered _ (mem_keys_iff_of_reordered ns) h]
  members := by
    intro ns types hmembers name
    rw [hp.members ns types hmembers,
      exists_iff_of_reordered _ (shows_iff_of_reordered ns name) h]
  allowAssembly := by rw [hp.allowAssembly, flatMap_eq_of_reordered _ (fun _ _ => rfl) h]
  disallowAssembly := by rw [hp.disallowAssembly, flatMap_eq_of_reordered _ (fun _ _ => rfl) h]

/-- Levels merged one by one, each with its visible members in whatever order, make the policy that
they amount to together. -/
theorem isMergeOf_foldl_combine (h : List.Forall₂ Reordered levels orders) :
    IsMergeOf levels (orders.foldl Draft.combine .empty).complete :=
  (isMergeOf_self orders).of_reordered h

end Orders

/-- Three levels that share settings, rules and namespaces.  The last of them gives its visible
members in another order when it is merged. -/
theorem overlapping_levels_isMergeOf :
    let uses (source target : String) : Rule := ⟨.exact ⟨source⟩, .exact ⟨target⟩⟩
    let outer := Draft.ofEdits
      [.setMaxIssues (some 20), .setEnabled (some true), .addDisallow (uses "A" "B"),
        .addAllow (uses "A" "C") (.ofList ["X"]), .addVisible ⟨"N"⟩ (.ofList ["T"])]
    let middle := Draft.ofEdits
      [.setMaxIssues (some 5), .addDisallow (uses "B" "A"), .addDisallow (uses "A" "B"),
        .addAllow (uses "A" "D") .empty, .addAllow (uses "A" "C") (.ofList ["Y"])]
    let inner := Draft.ofEdits
      [.setEnabled (some false), .addAllow (uses "A" "D") (.ofList ["Z"]),
        .addVisible ⟨"M"⟩ .empty, .addVisible ⟨"N"⟩ (.ofList ["S"])]
    let turned := { inner with visibleMembers := inner.visibleMembers.reverse }
    List.Forall₂ Reordered [outer, middle, inner] [outer, middle, turned] ∧
      IsMergeOf [outer, middle, inner]
        ([outer, middle, turned].foldl Draft.combine .empty).complete := by
  intro uses outer middle inner turned
  have horders : List.Forall₂ Reordered [outer, middle, inner] [outer, middle, turned] :=
    .cons ⟨_, .refl _, rfl⟩ (.cons ⟨_, .refl _, rfl⟩
      (.cons ⟨_, (List.reverse_perm _).symm, rfl⟩ .nil))
  exact ⟨horders, isMergeOf_foldl_combine horders⟩

end NamespacePolicy.Proofs.Merge
