import NamespacePolicy.Proofs.Replay

/-!
Places in drafts.  Edits, merges included, only append to the lists of a draft, and they leave out
what is there already.  So each list holds the distinct items that the edits gave, in the order in
which they first came; nothing that is listed ever moves; and the index of the allow rules gives
every rule its own place and knows no other rules.
-/

namespace NamespacePolicy.Proofs.Places

open Accumulation Drafts Merge Replay

theorem keys_modify {κ : Type} (rows : List (κ × TypeNames)) (place : Nat)
    (types : κ × TypeNames → TypeNames) :
    (rows.modify place fun row => (row.1, types row)).map (·.1) = rows.map (·.1) := by
  induction rows generalizing place with
  | nil => simp
  | cons row rest ih =>
      cases place with
      | zero => rfl
      | succ place => rw [List.modify_succ_cons, List.map_cons, List.map_cons, ih]

/-- The entries of the index are the rules of the rows, each with its place. -/
def Catalogued (t : AllowTable) : Prop := t.index.Perm (t.rows.map (·.1)).zipIdx

theorem Catalogued.add {t : AllowTable} (h : Catalogued t) (rule : Rule) (types : TypeNames) :
    Catalogued (t.add rule types) := by
  rw [Catalogued, AllowTable.add]
  cases t.index.lookup rule with
  | some place =>
      simp only [keys_modify]
      exact h
  | none =>
      have hlast : [rule].zipIdx (t.rows.map (·.1)).length = [(rule, t.rows.length)] := by simp
      simp only [List.map_append, List.map_cons, List.map_nil, List.zipIdx_append, Nat.zero_add,
        hlast]
      exact (h.cons _).trans (List.perm_append_singleton _ _).symm

theorem Catalogued.foldl_add {t : AllowTable} (h : Catalogued t)
    (rows : List (Rule × TypeNames)) :
    Catalogued (rows.foldl (fun t row => t.add row.1 row.2) t) := by
  induction rows generalizing t with
  | nil => exact h
  | cons row rest ih => exact ih (h.add row.1 row.2)

theorem catalogued_combine {d : Draft} (h : Catalogued d.allow) (other : Draft) :
    Catalogued (d.combine other).allow := by
  rw [combine_eq]
  exact h.foldl_add _

theorem catalogued_edit {d : Draft} (h : Catalogued d.allow) (e : Edit) :
    Catalogued (d.edit e).allow := by
  cases e with
  | addAllow rule types => exact h.add rule types
  | combine edits => exact catalogued_combine h _
  | _ => exact h

theorem catalogued_of_makes {d result : Draft} {edits : List Edit} (hrun : Makes d edits result)
    (h : Catalogued d.allow) : Catalogued result.allow := by
  induction hrun with
  | nil => exact h
  | edit _ _ ih => exact ih (catalogued_edit h _)
  | combine _ _ _ _ ih => exact ih (catalogued_combine h _)

section Lists

variable {α : Type}

mutual

/-- What an edit gives for one of the lists.  A merge gives what the merged edits give. -/
def givenBy (own : Edit → List α) : Edit → List α
  | .combine edits => gathered own edits
  | e => own e

def gathered (own : Edit → List α) : List Edit → List α
  | [] => []
  | e :: rest => givenBy own e ++ gathered own rest

end

theorem givenBy_eq (own : Edit → List α) {e : Edit} (he : ∀ edits, e ≠ .combine edits) :
    givenBy own e = own e := by
  cases e with
  | combine edits => exact absurd rfl (he edits)
  | _ => rfl

variable [DecidableEq α]

theorem prefix_foldl_addNew (acc items : List α) : acc <+: items.foldl addNew acc := by
  induction items generalizing acc with
  | nil => exact List.prefix_rfl
  | cons item rest ih =>
      have hitem : acc <+: addNew acc item := by
        rw [addNew]
        split
        · exact List.prefix_rfl
        · exact List.prefix_append _ _
      exact hitem.trans (ih _)

/-- A list of a draft to which every edit appends what it gives, less what is there already. -/
structure Appends (items : Draft → List α) (own : Edit → List α) : Prop where
  empty : items .empty = []
  edit : ∀ {d : Draft}, Sound d → ∀ e : Edit, (∀ edits, e ≠ .combine edits) →
    items (d.edit e) = (own e).foldl addNew (items d)
  combine : ∀ {d : Draft}, Sound d → ∀ other : Draft,
    items (d.combine other) = (items other).foldl addNew (items d)
  /-- The order of the visible members, in which merged drafts may differ, does not matter. -/
  reordered : ∀ (d : Draft) (rows : List (Domain × TypeNames)),
    items { d with visibleMembers := rows } = items d

namespace Appends

variable {items : Draft → List α} {own : Edit → List α} {d result : Draft} {edits : List Edit}

theorem items_eq (h : Appends items own) (hrun : Makes d edits result) (hd : Sound d) :
    items result = (gathered own edits).foldl addNew (items d) := by
  induction hrun with
  | nil => rfl
  | @edit d result e rest he _ ih =>
      rw [ih (hd.edit e), h.edit hd e he, gathered, givenBy_eq own he, List.foldl_append]
  | @combine d other turned result edits rest _ hturned _ ihother ih =>
      obtain ⟨rows, -, rfl⟩ := hturned
      -- The merged draft has left out repetitions of its own, which makes no difference here.
      have hmerged : items (d.combine { other with visibleMembers := rows }) =
          (gathered own edits).foldl addNew (items d) := by
        rw [h.combine hd, h.reordered other, ihother sound_empty, h.empty, foldl_addNew_foldl,
          List.foldl_nil]
      rw [ih (hd.combine _), hmerged, gathered, givenBy, List.foldl_append]

theorem items_prefix (h : Appends items own) (hrun : Makes d edits result) (hd : Sound d) :
    items d <+: items result := by
  rw [h.items_eq hrun hd]
  exact prefix_foldl_addNew _ _

theorem items_eq_eraseDups (h : Appends items own) (hrun : Makes .empty edits d) :
    items d = (gathered own edits).eraseDups := by
  rw [h.items_eq hrun sound_empty, h.empty, foldl_addNew_nil]

end Appends

end Lists

def globsOf : Edit → List Glob
  | .addExcluded globs => globs
  | _ => []

def allowedBy : Edit → List Rule
  | .addAllow rule _ => [rule]
  | _ => []

def disallowedBy : Edit → List Rule
  | .addDisallow rule => [rule]
  | _ => []

def assembliesAllowedBy : Edit → List Rule
  | .addAllowAssembly rule => [rule]
  | _ => []

def assembliesDisallowedBy : Edit → List Rule
  | .addDisallowAssembly rule => [rule]
  | _ => []

theorem appends_excluded : Appends (·.excluded) globsOf where
  empty := rfl
  edit _ e he := by
    cases e with
    | combine edits => exact absurd rfl (he edits)
    | _ => rfl
  combine _ _ := by rw [combine_eq]
  reordered _ _ := rfl

theorem appends_allow : Appends (·.allow.rows.map (·.1)) allowedBy where
  empty := rfl
  edit hd e he := by
    cases e with
    | addAllow rule types =>
        simp only [Draft.edit, Draft.addAllow, rows_add hd.allow, keys_addTypes]
        rfl
    | combine edits => exact absurd rfl (he edits)
    | _ => rfl
  combine hd other := by
    rw [combine_eq]
    simp only [(foldl_add hd.allow other.allow.rows).2, keys_foldl_addRow]
  reordered _ _ := rfl

theorem appends_disallow : Appends (·.disallow) disallowedBy where
  empty := rfl
  edit _ e he := by
    cases e with
    | combine edits => exact absurd rfl (he edits)
    | _ => rfl
  combine _ _ := by rw [combine_eq]
  reordered _ _ := rfl

theorem appends_allowAssembly : Appends (·.allowAssembly) assembliesAllowedBy where
  empty := rfl
  edit _ e he := by
    cases e with
    | combine edits => exact absurd rfl (he edits)
    | _ => rfl
  combine _ _ := by rw [combine_eq]
  reordered _ _ := rfl

theorem appends_disallowAssembly : Appends (·.disallowAssembly) assembliesDisallowedBy where
  empty := rfl
  edit _ e he := by
    cases e with
    | combine edits => exact absurd rfl (he edits)
    | _ => rfl
  combine _ _ := by rw [combine_eq]
  reordered _ _ := rfl

/-- Nothing is listed twice, and the index has one entry for every allow rule, which gives its
place, and no other entries. -/
structure Represented (d : Draft) : Prop extends Sound d where
  allowRules : (d.allow.rows.map (·.1)).Nodup
  catalogued : Catalogued d.allow

/-- What the first draft lists, the second one lists at the same place. -/
structure Keeps (d d' : Draft) : Prop where
  excluded : d.excluded <+: d'.excluded
  allow : d.allow.rows.map (·.1) <+: d'.allow.rows.map (·.1)
  index : ∀ rule place, d.allow.index.lookup rule = some place →
    d'.allow.index.lookup rule = some place
  disallow : d.disallow <+: d'.disallow
  allowAssembly : d.allowAssembly <+: d'.allowAssembly
  disallowAssembly : d.disallowAssembly <+: d'.disallowAssembly

/-- The lists of the draft hold what the edits give, every item once and in the order in which they
first came. -/
structure Gathers (edits : List Edit) (d : Draft) : Prop where
  excluded : d.excluded = (gathered globsOf edits).eraseDups
  allow : d.allow.rows.map (·.1) = (gathered allowedBy edits).eraseDups
  disallow : d.disallow = (gathered disallowedBy edits).eraseDups
  allowAssembly : d.allowAssembly = (gathered assembliesAllowedBy edits).eraseDups
  disallowAssembly : d.disallowAssembly = (gathered assembliesDisallowedBy edits).eraseDups

variable {s t edits : List Edit} {d d' : Draft}

theorem makes_append (h : Makes d s d') {result : Draft} (h' : Makes d' t result) :
    Makes d (s ++ t) result := by
  induction h with
  | nil => exact h'
  | edit he _ ih => exact .edit he (ih h')
  | combine hother hturned _ _ ih => exact .combine hother hturned (ih h')

theorem represented_of_makes (h : Makes .empty edits d) : Represented d where
  toSound := h.sound sound_empty
  allowRules := (h.sound sound_empty).allow.nodup
  catalogued := catalogued_of_makes h .nil

theorem gathers_of_makes (h : Makes .empty edits d) : Gathers edits d where
  excluded := appends_excluded.items_eq_eraseDups h
  allow := appends_allow.items_eq_eraseDups h
  disallow := appends_disallow.items_eq_eraseDups h
  allowAssembly := appends_allowAssembly.items_eq_eraseDups h
  disallowAssembly := appends_disallowAssembly.items_eq_eraseDups h

theorem keeps_of_makes (h : Makes d edits d') (hd : Sound d) : Keeps d d' where
  excluded := appends_excluded.items_prefix h hd
  allow := appends_allow.items_prefix h hd
  index := by
    intro rule place hplace
    obtain ⟨hlt, hrule⟩ := List.getElem?_eq_some_iff.mp ((hd.allow rule place).mp hplace)
    have hkept := List.prefix_iff_getElem?.mp (appends_allow.items_prefix h hd) place hlt
    rw [hrule] at hkept
    exact ((h.sound hd).allow rule place).mpr hkept
  disallow := appends_disallow.items_prefix h hd
  allowAssembly := appends_allowAssembly.items_prefix h hd
  disallowAssembly := appends_disallowAssembly.items_prefix h hd

/-- However a draft came about, and however it is edited after that, its index and its lists agree,
they hold what the edits gave and nothing twice, and all that was there stays where it was. -/
theorem edits_keep_places (hd : Makes .empty s d) (hd' : Makes d t d') :
    Represented d' ∧ Keeps d d' ∧ Gathers (s ++ t) d' := by
  have hall := makes_append hd hd'
  exact ⟨represented_of_makes hall, keeps_of_makes hd' (hd.sound sound_empty),
    gathers_of_makes hall⟩

/-- A merge that gives rules again, in another order and with the merged members turned around: they
stay where they are, and the new rule follows them. -/
theorem repeated_rules_keep_places :
    let uses (source target : String) : Rule := ⟨.exact ⟨source⟩, .exact ⟨target⟩⟩
    let s : List Edit :=
      [.addAllow (uses "A" "B") (.ofList ["X"]), .addAllow (uses "A" "C") .empty,
        .addDisallow (uses "B" "A")]
    let merged : List Edit :=
      [.addAllow (uses "C" "A") .empty, .addAllow (uses "A" "C") (.ofList ["Y"]),
        .addDisallow (uses "C" "B"), .addDisallow (uses "B" "A"), .addVisible ⟨"N"⟩ .empty,
        .addVisible ⟨"M"⟩ .empty]
    let other := Draft.ofEdits merged
    let d := Draft.ofEdits s
    let d' := d.combine { other with visibleMembers := other.visibleMembers.reverse }
    Makes .empty s d ∧ Makes d [.combine merged] d' ∧
      (Represented d' ∧ Keeps d d' ∧ Gathers (s ++ [.combine merged]) d') ∧
      d'.allow.index.lookup (uses "A" "C") = some 1 ∧
      d'.allow.index.lookup (uses "C" "A") = some 2 := by
  intro uses s merged other d d'
  have hd : Makes .empty s d := makes_editAll .empty s
  have hd' : Makes d [.combine merged] d' :=
    .combine (makes_editAll .empty merged) ⟨_, (List.reverse_perm _).symm, rfl⟩ (.nil _)
  exact ⟨hd, hd', edits_keep_places hd hd', by decide, by decide⟩

end NamespacePolicy.Proofs.Places
