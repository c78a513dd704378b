import NamespacePolicy.Proofs.Merge

/-!
Merging a draft replays the edits that made it.  What a draft says is read off it key by key, so
that tables in another order say the same; merging then is an associative operation on what drafts
say, and every edit merges in what it says alone.  In which order a merged draft gives its visible
members makes no difference, however deeply merges are nested.
-/

namespace NamespacePolicy.Proofs.Replay

open Accumulation Drafts Merge Verdicts

section Tables

variable {κ : Type}

theorem eq_of_forall_mem_iff {a b : TypeNames} (h : ∀ name, name ∈ a ↔ name ∈ b) : a = b := by
  obtain ⟨names, ascending⟩ := a
  obtain ⟨names', ascending'⟩ := b
  have hnodup : ∀ {l : List String}, l.Pairwise (· < ·) → l.Nodup := by
    intro l hl
    refine hl.imp ?_
    rintro x _ hlt rfl
    exact String.lt_irrefl x hlt
  have hperm := (List.perm_ext_iff_of_nodup (hnodup ascending) (hnodup ascending')).mpr h
  obtain rfl : names = names' := by
    refine hperm.eq_of_pairwise (fun x y _ _ hxy hyx => ?_) ascending ascending'
    exact absurd (String.lt_trans hxy hyx) (String.lt_irrefl x)
  rfl

/-- Tables without a repeated key have the same rows when they have the same keys and show the same
names under them. -/
theorem perm_of_shows_iff {a b : List (κ × TypeNames)} (ha : (a.map (·.1)).Nodup)
    (hb : (b.map (·.1)).Nodup) (hkeys : ∀ key, key ∈ a.map (·.1) ↔ key ∈ b.map (·.1))
    (hshows : ∀ key name, Shows a key name ↔ Shows b key name) : a.Perm b := by
  have hsub : ∀ {a b : List (κ × TypeNames)}, (a.map (·.1)).Nodup → (b.map (·.1)).Nodup →
      (∀ key, key ∈ a.map (·.1) → key ∈ b.map (·.1)) →
      (∀ key name, Shows a key name ↔ Shows b key name) → ∀ row ∈ a, row ∈ b := by
    rintro a b ha hb hkeys hshows ⟨key, types⟩ hrow
    obtain ⟨⟨_, types'⟩, hrow', rfl⟩ := List.mem_map.mp (hkeys key (List.mem_map_of_mem hrow))
    obtain rfl : types = types' := eq_of_forall_mem_iff fun name => by
      rw [← shows_iff_of_nodup ha hrow, hshows, shows_iff_of_nodup hb hrow']
    exact hrow'
  rw [List.perm_ext_iff_of_nodup ha.of_map hb.of_map]
  intro row
  exact ⟨hsub ha hb (fun key => (hkeys key).mp) hshows row,
    hsub hb ha (fun key => (hkeys key).mpr) (fun key name => (hshows key name).symm) row⟩

theorem rows_eq_of_shows_iff {a b : List (κ × TypeNames)} (ha : (a.map (·.1)).Nodup)
    (hkeys : a.map (·.1) = b.map (·.1))
    (hshows : ∀ key name, Shows a key name ↔ Shows b key name) : a = b := by
  have hb : (b.map (·.1)).Nodup := hkeys ▸ ha
  have hperm := perm_of_shows_iff ha hb (fun key => by rw [hkeys]) hshows
  refine List.ext_getElem hperm.length_eq fun i hi hi' => ?_
  have hmem : a[i] ∈ b := hperm.mem_iff.mp (List.getElem_mem hi)
  refine List.inj_on_of_nodup_map hb hmem (List.getElem_mem hi') ?_
  have hkey := congrArg (·[i]?) hkeys
  simpa [hi, hi'] using hkey

end Tables

section Lists

variable {α : Type} [DecidableEq α]

theorem mem_foldl_addNew (items acc : List α) (item : α) :
    item ∈ items.foldl addNew acc ↔ item ∈ acc ∨ item ∈ items := by
  induction items generalizing acc with
  | nil => simp
  | cons first rest ih =>
      have hfirst : item ∈ addNew acc first ↔ item ∈ acc ∨ item = first := by
        rw [addNew]
        split
        · next hmem => exact ⟨.inl, fun h => h.elim id fun heq => heq ▸ hmem⟩
        · simp
      rw [List.foldl_cons, ih, hfirst, List.mem_cons, or_assoc]

/-- Items that were collected elsewhere are added as if they came one by one. -/
theorem foldl_addNew_foldl (items middle acc : List α) :
    (items.foldl addNew middle).foldl addNew acc =
      items.foldl addNew (middle.foldl addNew acc) := by
  induction items generalizing middle with
  | nil => rfl
  | cons item rest ih =>
      have hitem : (addNew middle item).foldl addNew acc =
          addNew (middle.foldl addNew acc) item := by
        rw [addNew]
        split
        · next hmem =>
          rw [addNew, if_pos ((mem_foldl_addNew ..).mpr (.inr hmem))]
        · rw [List.foldl_append, List.foldl_cons, List.foldl_nil]
      rw [List.foldl_cons, List.foldl_cons, ih, hitem]

end Lists

/-- What a draft says: its settings, its lists in order, and its tables read by key. -/
@[ext]
structure Content where
  enabled : Option Bool
  childMayUseParent : Option Bool
  parentMayUseChild : Option Bool
  maxIssues : Option Nat
  dependencySeverity : Option Severity
  limitSeverity : Option Severity
  checkAssemblies : Option Bool
  excluded : List Glob
  allowRules : List Rule
  allowTypes : Rule → String → Prop
  disallow : List Rule
  namespaces : Domain → Prop
  members : Domain → String → Prop
  allowAssembly : List Rule
  disallowAssembly : List Rule

def contentOf (d : Draft) : Content where
  enabled := d.enabled
  childMayUseParent := d.childMayUseParent
  parentMayUseChild := d.parentMayUseChild
  maxIssues := d.maxIssues
  dependencySeverity := d.dependencySeverity
  limitSeverity := d.limitSeverity
  checkAssemblies := d.checkAssemblies
  excluded := d.excluded
  allowRules := d.allow.rows.map (·.1)
  allowTypes := Shows d.allow.rows
  disallow := d.disallow
  namespaces ns := ns ∈ d.visibleMembers.map (·.1)
  members := Shows d.visibleMembers
  allowAssembly := d.allowAssembly
  disallowAssembly := d.disallowAssembly

namespace Content

/-- What is said by one draft and then by another. -/
def append (a b : Content) : Content where
  enabled := b.enabled <|> a.enabled
  childMayUseParent := b.childMayUseParent <|> a.childMayUseParent
  parentMayUseChild := b.parentMayUseChild <|> a.parentMayUseChild
  maxIssues := b.maxIssues <|> a.maxIssues
  dependencySeverity := b.dependencySeverity <|> a.dependencySeverity
  limitSeverity := b.limitSeverity <|> a.limitSeverity
  checkAssemblies := b.checkAssemblies <|> a.checkAssemblies
  excluded := b.excluded.foldl addNew a.excluded
  allowRules := b.allowRules.foldl addNew a.allowRules
  allowTypes rule name := a.allowTypes rule name ∨ b.allowTypes rule name
  disallow := b.disallow.foldl addNew a.disallow
  namespaces ns := a.namespaces ns ∨ b.namespaces ns
  members ns name := a.members ns name ∨ b.members ns name
  allowAssembly := b.allowAssembly.foldl addNew a.allowAssembly
  disallowAssembly := b.disallowAssembly.foldl addNew a.disallowAssembly

instance : Append Content := ⟨append⟩

theorem append_assoc (a b c : Content) : a ++ b ++ c = a ++ (b ++ c) := by
  change (a.append b).append c = a.append (b.append c)
  simp [append, foldl_addNew_foldl, or_assoc, Option.or_assoc]

theorem append_empty (a : Content) : a ++ contentOf .empty = a := by
  change a.append (contentOf .empty) = a
  simp [append, contentOf, Draft.empty, Shows]

end Content

theorem contentOf_combine {d : Draft} (hd : Sound d) (other : Draft) :
    contentOf (d.combine other) = contentOf d ++ contentOf other := by
  change _ = (contentOf d).append (contentOf other)
  have hrows := (foldl_add hd.allow other.allow.rows).2
  rw [combine_eq]
  ext <;>
    simp [contentOf, Content.append, hrows, keys_foldl_addRow, shows_foldl_addRow,
      mem_foldl_addNew, or_comm]

/-- An edit merges in what it says alone. -/
theorem edit_eq_combine (d : Draft) {e : Edit} (he : ∀ edits, e ≠ .combine edits) :
    d.edit e = d.combine (Draft.empty.edit e) := by
  rw [combine_eq]
  cases e with
  | combine edits => exact absurd rfl (he edits)
  | addExcluded globs => simp [Draft.edit, Draft.addExcluded, Draft.empty, foldl_addNew_foldl]
  | addAllow | addDisallow | addVisible | addAllowAssembly | addDisallowAssembly => rfl
  | _ =>
      rename_i value
      cases value <;> rfl

theorem contentOf_edit {d : Draft} (hd : Sound d) (e : Edit) :
    contentOf (d.edit e) = contentOf d ++ contentOf (Draft.empty.edit e) := by
  by_cases he : ∃ edits, e = .combine edits
  · obtain ⟨edits, rfl⟩ := he
    change contentOf (d.combine (.ofEdits edits)) =
      contentOf d ++ contentOf (Draft.empty.combine (.ofEdits edits))
    rw [contentOf_combine hd, contentOf_combine sound_empty, ← Content.append_assoc,
      Content.append_empty]
  · rw [edit_eq_combine d (not_exists.mp he), contentOf_combine hd]

theorem contentOf_editAll {d : Draft} (hd : Sound d) (edits : List Edit) :
    contentOf (d.editAll edits) = contentOf d ++ contentOf (.ofEdits edits) := by
  induction edits generalizing d with
  | nil => exact (Content.append_empty _).symm
  | cons e rest ih =>
      change contentOf ((d.edit e).editAll rest) =
        contentOf d ++ contentOf ((Draft.empty.edit e).editAll rest)
      rw [ih (hd.edit e), ih (sound_empty.edit e), contentOf_edit hd, Content.append_assoc]

theorem ofEdits_append (s t : List Edit) : Draft.ofEdits (s ++ t) = (Draft.ofEdits s).editAll t := by
  have happend : ∀ d : Draft, d.editAll (s ++ t) = (d.editAll s).editAll t := by
    induction s with
    | nil => exact fun d => rfl
    | cons e rest ih => exact fun d => ih (d.edit e)
  exact happend .empty

/-- What edits may make of a draft.  Each merged draft gives its visible members in some order. -/
inductive Makes : Draft → List Edit → Draft → Prop
  | nil (d : Draft) : Makes d [] d
  | edit {d result : Draft} {e : Edit} {rest : List Edit} (he : ∀ edits, e ≠ .combine edits)
      (hrest : Makes (d.edit e) rest result) : Makes d (e :: rest) result
  | combine {d other turned result : Draft} {edits rest : List Edit}
      (hother : Makes .empty edits other) (hturned : Reordered other turned)
      (hrest : Makes (d.combine turned) rest result) : Makes d (.combine edits :: rest) result

theorem contentOf_of_reordered {a b : Draft} (h : Reordered a b) : contentOf b = contentOf a := by
  have hkeys := fun ns => mem_keys_iff_of_reordered ns a b h
  have hshows := fun ns name => shows_iff_of_reordered ns name a b h
  obtain ⟨rows, -, rfl⟩ := h
  simp only [contentOf, Content.mk.injEq, true_and, and_true]
  exact ⟨funext fun ns => propext (hkeys ns),
    funext fun ns => funext fun name => propext (hshows ns name)⟩

theorem Makes.sound {d result : Draft} {edits : List Edit} (h : Makes d edits result)
    (hd : Sound d) : Sound result := by
  induction h with
  | nil => exact hd
  | edit _ _ ih => exact ih (hd.edit _)
  | combine _ _ _ _ ih => exact ih (hd.combine _)

theorem Makes.contentOf_eq {d result : Draft} {edits : List Edit} (h : Makes d edits result)
    (hd : Sound d) : contentOf result = contentOf d ++ contentOf (.ofEdits edits) := by
  induction h with
  | nil => exact (Content.append_empty _).symm
  | @edit d result e rest he _ ih =>
      rw [ih (hd.edit e), contentOf_edit hd, Content.append_assoc,
        ← contentOf_editAll (sound_empty.edit e)]
      rfl
  | @combine d other turned result edits rest _ hturned _ ihother ih =>
      have hturned' : contentOf turned = contentOf (Draft.empty.edit (.combine edits)) := by
        rw [contentOf_of_reordered hturned, ihother sound_empty]
        exact (contentOf_combine sound_empty _).symm
      rw [ih (hd.combine turned), contentOf_combine hd, hturned', Content.append_assoc,
        ← contentOf_editAll (sound_empty.edit (.combine edits))]
      rfl

/-- What edits make when each merged draft keeps the order in which its members were added. -/
theorem makes_editAll : ∀ (d : Draft) (edits : List Edit), Makes d edits (d.editAll edits)
  | d, [] => .nil d
  | d, e :: rest => by
      by_cases he : ∃ edits, e = .combine edits
      · obtain ⟨edits, rfl⟩ := he
        exact .combine (makes_editAll .empty edits) ⟨_, .refl _, rfl⟩ (makes_editAll _ rest)
      · exact .edit (not_exists.mp he) (makes_editAll _ rest)
  termination_by _ edits => sizeOf edits

/-- The same policy, which may list its visible members in another order. -/
structure SamePolicy (p q : Policy) : Prop where
  others : { p with visibleMembers := q.visibleMembers } = q
  entries : p.visibleMembers.Perm q.visibleMembers
  members : ∀ ns, p.membersOf ns = q.membersOf ns

theorem samePolicy_complete {a b : Draft} (ha : Sound a) (hb : Sound b)
    (h : contentOf a = contentOf b) : SamePolicy a.complete b.complete := by
  have hrows : a.allow.rows = b.allow.rows :=
    rows_eq_of_shows_iff ha.allow.nodup (congrArg Content.allowRules h)
      fun rule name => iff_of_eq (congrFun (congrFun (congrArg Content.allowTypes h) rule) name)
  have hentries : a.visibleMembers.Perm b.visibleMembers :=
    perm_of_shows_iff ha.visibleMembers hb.visibleMembers
      (fun ns => iff_of_eq (congrFun (congrArg Content.namespaces h) ns))
      fun ns name => iff_of_eq (congrFun (congrFun (congrArg Content.members h) ns) name)
  refine ⟨?_, hentries, ?_⟩
  · simp only [contentOf, Content.mk.injEq] at h
    simp only [Draft.complete, hrows, h]
  · intro ns
    apply Option.ext
    intro types
    rw [membersOf_eq_some_iff ha.visibleMembers, membersOf_eq_some_iff hb.visibleMembers]
    exact hentries.mem_iff

/-- Merging the draft that some edits make is the same as making those edits in place. -/
theorem combine_agrees_replay {s t : List Edit} {a b turned c : Draft} (ha : Makes .empty s a)
    (hb : Makes .empty t b) (hturned : Reordered b turned) (hc : Makes .empty (s ++ t) c) :
    (a.combine turned).enabled = c.enabled ∧
      SamePolicy (a.combine turned).complete c.complete := by
  have hsound := ha.sound sound_empty
  have hcontent : contentOf (a.combine turned) = contentOf c := by
    calc
      contentOf (a.combine turned)
      _ = contentOf a ++ contentOf b := by
          rw [contentOf_combine hsound, contentOf_of_reordered hturned]
      _ = contentOf .empty ++ contentOf (.ofEdits s) ++
            (contentOf .empty ++ contentOf (.ofEdits t)) := by
          rw [ha.contentOf_eq sound_empty, hb.contentOf_eq sound_empty]
      _ = contentOf .empty ++ (contentOf (.ofEdits s) ++ contentOf (.ofEdits t)) := by
          rw [← Content.append_assoc, Content.append_empty, Content.append_assoc]
      _ = contentOf .empty ++ contentOf (.ofEdits (s ++ t)) := by
          rw [ofEdits_append, contentOf_editAll (sound_ofEdits s)]
      _ = contentOf c := (hc.contentOf_eq sound_empty).symm
  exact ⟨congrArg Content.enabled hcontent,
    samePolicy_complete (hsound.combine turned) (hc.sound sound_empty) hcontent⟩

/-- A rule and a namespace that both sides give, with a merge inside the merged edits; the merged
draft gives its visible members in the opposite order. -/
theorem nested_merge_agrees_replay :
    let uses (source target : String) : Rule := ⟨.exact ⟨source⟩, .exact ⟨target⟩⟩
    let s : List Edit :=
      [.setEnabled (some true), .addAllow (uses "A" "B") (.ofList ["X"]),
        .addVisible ⟨"N"⟩ (.ofList ["T"])]
    let t : List Edit :=
      [.addAllow (uses "A" "C") .empty,
        .combine [.setEnabled (some false), .addAllow (uses "A" "B") (.ofList ["Y"]),
          .addVisible ⟨"M"⟩ .empty],
        .setEnabled none, .addVisible ⟨"N"⟩ (.ofList ["S"])]
    let b := Draft.ofEdits t
    let turned := { b with visibleMembers := b.visibleMembers.reverse }
    let c := Draft.ofEdits (s ++ t)
    Reordered b turned ∧ ((Draft.ofEdits s).combine turned).enabled = c.enabled ∧
      SamePolicy ((Draft.ofEdits s).combine turned).complete c.complete := by
  intro uses s t b turned c
  have hturned : Reordered b turned := ⟨_, (List.reverse_perm _).symm, rfl⟩
  exact ⟨hturned, combine_agrees_replay (makes_editAll .empty s) (makes_editAll .empty t) hturned
    (makes_editAll .empty (s ++ t))⟩

end NamespacePolicy.Proofs.Replay
