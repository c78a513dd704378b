import NamespacePolicy.Proofs.Replay

/-!
What merging shows.  A set of types shows its members, and an empty one shows all types.  Where
two merged drafts have a rule or a namespace in common, the policy shows what either of them shows,
unless just one of the two sets is empty: this one then adds nothing to the other, and the types
that only it shows are hidden.
-/

namespace NamespacePolicy.Proofs.Visibility

open Accumulation Drafts Merge Replay Verdicts

/-- An empty set of types restricts nothing. -/
def Sees (types : TypeNames) (name : String) : Prop := types = .empty ∨ name ∈ types

def SeenThrough (p : Policy) (rule : Rule) (name : String) : Prop :=
  ∃ types, ⟨rule, types⟩ ∈ p.allow ∧ Sees types name

def SeenIn (p : Policy) (ns : Domain) (name : String) : Prop :=
  ∃ types, p.membersOf ns = some types ∧ Sees types name

/-- What is seen when sets of types are merged, from what is seen by each of them. -/
structure Unites (types types' : TypeNames) (first second merged : String → Prop) : Prop where
  union : (types = .empty ↔ types' = .empty) → ∀ name, merged name ↔ first name ∨ second name
  ofFirstEmpty : types = .empty → ∀ name, merged name ↔ second name
  ofSecondEmpty : types' = .empty → ∀ name, merged name ↔ first name

section Sets

variable {types types' both : TypeNames}

theorem eq_empty_iff (types : TypeNames) : types = .empty ↔ ∀ name, name ∉ types := by
  constructor
  · rintro rfl name
    exact List.not_mem_nil
  · intro h
    apply eq_of_forall_mem_iff
    intro name
    exact iff_of_false (h name) List.not_mem_nil

theorem unites_of_mem_iff (h : ∀ name, name ∈ both ↔ name ∈ types ∨ name ∈ types') :
    Unites types types' (Sees types) (Sees types') (Sees both) := by
  have hboth : both = .empty ↔ types = .empty ∧ types' = .empty := by
    simp only [eq_empty_iff, h, not_or, forall_and]
  refine ⟨?_, ?_, ?_⟩
  · intro hempty name
    simp only [Sees, hboth, h, ← hempty, and_self]
    exact or_or_distrib_left
  · rintro rfl name
    simp only [Sees, hboth, h, true_and, (eq_empty_iff .empty).mp rfl name, false_or]
  · rintro rfl name
    simp only [Sees, hboth, h, and_true, (eq_empty_iff .empty).mp rfl name, or_false]

theorem Unites.congr {first first' second second' merged merged' : String → Prop}
    (h : Unites types types' first second merged) (hfirst : ∀ name, first' name ↔ first name)
    (hsecond : ∀ name, second' name ↔ second name) (hmerged : ∀ name, merged' name ↔ merged name) :
    Unites types types' first' second' merged' := by
  obtain rfl : first' = first := funext fun name => propext (hfirst name)
  obtain rfl : second' = second := funext fun name => propext (hsecond name)
  obtain rfl : merged' = merged := funext fun name => propext (hmerged name)
  exact h

theorem exists_united {κ : Type} {rows rows' merged : List (κ × TypeNames)} {key : κ}
    (hrows : (rows.map (·.1)).Nodup) (hrows' : (rows'.map (·.1)).Nodup)
    (hmerged : (merged.map (·.1)).Nodup) (hkey : key ∈ merged.map (·.1))
    (hshows : ∀ name, Shows merged key name ↔ Shows rows key name ∨ Shows rows' key name)
    (htypes : (key, types) ∈ rows) (htypes' : (key, types') ∈ rows') :
    ∃ both, (key, both) ∈ merged ∧
      Unites types types' (Sees types) (Sees types') (Sees both) := by
  obtain ⟨⟨_, both⟩, hboth, rfl⟩ := List.mem_map.mp hkey
  refine ⟨both, hboth, unites_of_mem_iff ?_⟩
  intro name
  rw [← shows_iff_of_nodup hmerged hboth, hshows, shows_iff_of_nodup hrows htypes,
    shows_iff_of_nodup hrows' htypes']

end Sets

section Drafts

variable {d : Draft}

theorem mem_allow_complete_iff (d : Draft) (rule : Rule) (types : TypeNames) :
    ⟨rule, types⟩ ∈ d.complete.allow ↔ (rule, types) ∈ d.allow.rows := by
  simp only [Draft.complete, List.mem_map]
  constructor
  · rintro ⟨row, hrow, hsame⟩
    obtain ⟨rfl, rfl⟩ := AllowRule.mk.inj hsame
    exact hrow
  · intro hrow
    exact ⟨_, hrow, rfl⟩

theorem seenThrough_complete_iff (hd : Sound d) {rule : Rule} {types : TypeNames}
    (h : (rule, types) ∈ d.allow.rows) (name : String) :
    SeenThrough d.complete rule name ↔ Sees types name := by
  simp only [SeenThrough, mem_allow_complete_iff]
  constructor
  · rintro ⟨types', htypes', hname⟩
    have hsame := List.inj_on_of_nodup_map hd.allow.nodup htypes' h rfl
    rwa [(Prod.mk.inj hsame).2] at hname
  · intro hname
    exact ⟨types, h, hname⟩

theorem seenIn_complete_iff {ns : Domain} {types : TypeNames}
    (h : d.complete.membersOf ns = some types) (name : String) :
    SeenIn d.complete ns name ↔ Sees types name := by
  simp only [SeenIn, h, Option.some.injEq, exists_eq_left']

end Drafts

section Merged

variable {a b turned : Draft} (ha : Sound a) (hb : Sound b) (hturned : Reordered b turned)

include ha hb hturned

theorem unites_seenThrough {rule : Rule} {types types' : TypeNames}
    (htypes : ⟨rule, types⟩ ∈ a.complete.allow) (htypes' : ⟨rule, types'⟩ ∈ b.complete.allow) :
    Unites types types' (SeenThrough a.complete rule) (SeenThrough b.complete rule)
      (SeenThrough (a.combine turned).complete rule) := by
  rw [mem_allow_complete_iff] at htypes htypes'
  have hsound := ha.combine turned
  have hcontent := contentOf_combine ha turned
  rw [contentOf_of_reordered hturned] at hcontent
  have hrules : (a.combine turned).allow.rows.map (·.1) =
      (b.allow.rows.map (·.1)).foldl addNew (a.allow.rows.map (·.1)) :=
    congrArg Content.allowRules hcontent
  have hrule : rule ∈ (a.combine turned).allow.rows.map (·.1) := by
    rw [hrules, mem_foldl_addNew]
    exact .inl (List.mem_map_of_mem htypes)
  have hshows : ∀ name, Shows (a.combine turned).allow.rows rule name ↔
      Shows a.allow.rows rule name ∨ Shows b.allow.rows rule name := fun name =>
    iff_of_eq (congrFun (congrFun (congrArg Content.allowTypes hcontent) rule) name)
  obtain ⟨both, hboth, hunites⟩ := exists_united ha.allow.nodup hb.allow.nodup hsound.allow.nodup
    hrule hshows htypes htypes'
  exact hunites.congr (seenThrough_complete_iff ha htypes) (seenThrough_complete_iff hb htypes')
    (seenThrough_complete_iff hsound hboth)

theorem unites_seenIn {ns : Domain} {types types' : TypeNames}
    (htypes : a.complete.membersOf ns = some types)
    (htypes' : b.complete.membersOf ns = some types') :
    Unites types types' (SeenIn a.complete ns) (SeenIn b.complete ns)
      (SeenIn (a.combine turned).complete ns) := by
  have hsound := ha.combine turned
  have hcontent := contentOf_combine ha turned
  rw [contentOf_of_reordered hturned] at hcontent
  have hrow : (ns, types) ∈ a.visibleMembers :=
    (membersOf_eq_some_iff ha.visibleMembers ns types).mp htypes
  have hrow' : (ns, types') ∈ b.visibleMembers :=
    (membersOf_eq_some_iff hb.visibleMembers ns types').mp htypes'
  have hns : ns ∈ (a.combine turned).visibleMembers.map (·.1) :=
    (iff_of_eq (congrFun (congrArg Content.namespaces hcontent) ns)).mpr
      (.inl (List.mem_map_of_mem hrow))
  have hshows : ∀ name, Shows (a.combine turned).visibleMembers ns name ↔
      Shows a.visibleMembers ns name ∨ Shows b.visibleMembers ns name := fun name =>
    iff_of_eq (congrFun (congrFun (congrArg Content.members hcontent) ns) name)
  obtain ⟨both, hboth, hunites⟩ := exists_united ha.visibleMembers hb.visibleMembers
    hsound.visibleMembers hns hshows hrow hrow'
  have hmembers : (a.combine turned).complete.membersOf ns = some both :=
    (membersOf_eq_some_iff hsound.visibleMembers ns both).mpr hboth
  exact hunites.congr (seenIn_complete_iff htypes) (seenIn_complete_iff htypes')
    (seenIn_complete_iff hmembers)

end Merged

/-- Whatever edits made two drafts and in whatever order the second one gives its members, a rule
that both have shows after merging what it showed in either, if both or none of its sets are empty;
if one of them is, it shows what it showed in the other draft.  So it is with namespaces. -/
theorem combine_unites {s t : List Edit} {a b turned : Draft} (ha : Makes .empty s a)
    (hb : Makes .empty t b) (hturned : Reordered b turned) :
    (∀ rule types types', ⟨rule, types⟩ ∈ a.complete.allow → ⟨rule, types'⟩ ∈ b.complete.allow →
      Unites types types' (SeenThrough a.complete rule) (SeenThrough b.complete rule)
        (SeenThrough (a.combine turned).complete rule)) ∧
    ∀ ns types types', a.complete.membersOf ns = some types →
      b.complete.membersOf ns = some types' →
      Unites types types' (SeenIn a.complete ns) (SeenIn b.complete ns)
        (SeenIn (a.combine turned).complete ns) := by
  have hsounda := ha.sound sound_empty
  have hsoundb := hb.sound sound_empty
  constructor
  · intro rule types types' htypes htypes'
    exact unites_seenThrough hsounda hsoundb hturned htypes htypes'
  · intro ns types types' htypes htypes'
    exact unites_seenIn hsounda hsoundb hturned htypes htypes'

/-- A rule that names types in both drafts, and a namespace that names none in the second one. -/
theorem repeated_rule_unites :
    let rule : Rule := ⟨.exact ⟨"A"⟩, .exact ⟨"B"⟩⟩
    let s : List Edit :=
      [.addAllow rule (.ofList ["T"]), .addVisible ⟨"M"⟩ .empty, .addVisible ⟨"N"⟩ (.ofList ["X"])]
    let t : List Edit :=
      [.addVisible ⟨"N"⟩ .empty, .addVisible ⟨"M"⟩ .empty, .addAllow rule (.ofList ["S"])]
    let a := Draft.ofEdits s
    let b := Draft.ofEdits t
    let turned := { b with visibleMembers := b.visibleMembers.reverse }
    let merged := (a.combine turned).complete
    Reordered b turned ∧
      ⟨rule, .ofList ["T"]⟩ ∈ a.complete.allow ∧ ⟨rule, .ofList ["S"]⟩ ∈ b.complete.allow ∧
      a.complete.membersOf ⟨"N"⟩ = some (.ofList ["X"]) ∧
      b.complete.membersOf ⟨"N"⟩ = some .empty ∧
      (∀ name, SeenThrough merged rule name ↔
        SeenThrough a.complete rule name ∨ SeenThrough b.complete rule name) ∧
      ∀ name, SeenIn merged ⟨"N"⟩ name ↔ SeenIn a.complete ⟨"N"⟩ name := by
  intro rule s t a b turned merged
  have hturned : Reordered b turned := ⟨_, (List.reverse_perm _).symm, rfl⟩
  have ha : ⟨rule, .ofList ["T"]⟩ ∈ a.complete.allow := by decide
  have hb : ⟨rule, .ofList ["S"]⟩ ∈ b.complete.allow := by decide
  have hna : a.complete.membersOf ⟨"N"⟩ = some (.ofList ["X"]) := by decide
  have hnb : b.complete.membersOf ⟨"N"⟩ = some .empty := by decide
  obtain ⟨hrules, hnamespaces⟩ :=
    combine_unites (makes_editAll .empty s) (makes_editAll .empty t) hturned
  exact ⟨hturned, ha, hb, hna, hnb, (hrules rule _ _ ha hb).union (by decide),
    (hnamespaces ⟨"N"⟩ _ _ hna hnb).ofSecondEmpty rfl⟩

/-- A type that a rule without types shows is hidden, once the rule is given again with others. -/
theorem repeated_rule_hides :
    let rule : Rule := ⟨.exact ⟨"A"⟩, .exact ⟨"B"⟩⟩
    let outer := Draft.ofEdits [.addAllow rule .empty]
    let inner := Draft.ofEdits [.addAllow rule (.ofList ["T"])]
    rule ∈ outer.complete.allowRules ∧ rule ∈ inner.complete.allowRules ∧
      SeenThrough outer.complete rule "S" ∧
      ¬ SeenThrough (outer.combine inner).complete rule "S" := by
  intro rule outer inner
  have hmerged : (outer.combine inner).complete.allow = [⟨rule, .ofList ["T"]⟩] := by decide
  refine ⟨by decide, by decide, ⟨.empty, by decide, .inl rfl⟩, ?_⟩
  rintro ⟨types, htypes, hname⟩
  rw [hmerged, List.mem_singleton] at htypes
  obtain ⟨-, rfl⟩ := AllowRule.mk.inj htypes
  rcases hname with hempty | hname
  · exact absurd hempty (by decide)
  · rw [← TypeNames.contains_eq_true] at hname
    exact absurd hname (by decide)

end NamespacePolicy.Proofs.Visibility
