import NamespacePolicy.Proofs.Ancestry
import NamespacePolicy.Proofs.PatternKeys
import NamespacePolicy.Proofs.WildcardScore

/-!
Trees as wildcard patterns.  The text of a tree is also a wildcard pattern, with the components of
the root as literals and a `*` after them.  One compares texts and scores by the length of the
root, the other lays components over components and scores what that leaves over; but as long as
that can be counted they match the same domains, and of two roots above one domain both prefer the
lower one.
-/

namespace NamespacePolicy.Proofs.TreeWildcards

open Proofs.Alignment Ancestry PatternGrammar PatternKeys Ranking Separation Text WildcardScore

/-- The components of the root, and any number of components after them. -/
def starred (root : Domain) : Wildcard := ⟨root.components.map .literal ++ [.anyMany]⟩

theorem lays_star_iff {names : List String} {k : Nat} :
    Lays [.anyMany] names k ↔ k = names.length + 1 := by
  constructor
  · intro h
    cases h with
    | anyMany taken h =>
        cases h with
        | nil =>
            rw [List.append_nil]
            omega
  · rintro rfl
    have h := Lays.anyMany names .nil
    rwa [List.append_nil, Nat.zero_add, Nat.add_comm] at h

/-- Literals take what they name, and the `*` pays for the rest. -/
theorem lays_literals_iff {literals names : List String} {k : Nat} :
    Lays (literals.map .literal ++ [.anyMany]) names k ↔
      literals <+: names ∧ k + literals.length = names.length + 1 := by
  induction literals generalizing names with
  | nil =>
      rw [List.map_nil, List.nil_append, lays_star_iff]
      exact (and_iff_right List.nil_prefix).symm
  | cons literal literals ih =>
      rw [List.map_cons, List.cons_append]
      constructor
      · intro h
        cases h with
        | literal name h =>
            obtain ⟨hbegins, hcost⟩ := ih.mp h
            refine ⟨(List.prefix_cons_inj literal).mpr hbegins, ?_⟩
            rw [List.length_cons, List.length_cons, ← hcost]
            rfl
      · rintro ⟨⟨rest, rfl⟩, hcost⟩
        refine .literal literal (ih.mpr ⟨List.prefix_append _ _, ?_⟩)
        simp only [List.append_eq, List.length_cons, List.length_append] at hcost ⊢
        omega

section Roots

variable {root c : Domain} {k : Nat}

theorem lays_starred_iff :
    Lays (starred root).components c.components k ↔
      root.components <+: c.components ∧ k + root.components.length = c.components.length + 1 :=
  lays_literals_iff

theorem isSome_cost_starred_iff :
    ((starred root).cost c.components).isSome ↔ root.components <+: c.components := by
  rw [Option.isSome_iff_exists]
  constructor
  · rintro ⟨k, hk⟩
    exact (lays_starred_iff.mp (least_eq_some_iff.mp hk)).1
  · intro hbegins
    have hlength := hbegins.length_le
    refine ⟨c.components.length + 1 - root.components.length, ?_⟩
    exact least_eq_some_iff.mpr (lays_starred_iff.mpr ⟨hbegins, by omega⟩)

theorem matches_tree_iff : Matches c (.tree ⟨root⟩) ↔ root.components <+: c.components := by
  constructor
  · rintro (rfl | hbelow)
    · exact List.prefix_refl _
    · exact ((isBelow_eq_true_iff c root).mp hbelow).1
  · intro hbegins
    by_cases hroot : root = c
    · exact .inl hroot.symm
    · exact .inr ((isBelow_eq_true_iff c root).mpr (isAncestor_iff_ne.mpr ⟨hbegins, hroot⟩))

theorem relevance_tree_pos (h : Matches c (.tree ⟨root⟩)) : 0 < (Tree.mk root).relevance c := by
  have hmax : maxRelevance = 2 ^ 32 - 1 := rfl
  have hunder : c = root ∨ c.isBelow root = true := h
  simp only [Tree.relevance]
  rw [if_pos hunder]
  split_ifs <;> omega

theorem covers_tree_iff :
    (Pattern.tree ⟨root⟩).covers c = true ↔ root.components <+: c.components := by
  rw [← matches_tree_iff]
  exact ⟨matches_of_covers, fun h => decide_eq_true (relevance_tree_pos h)⟩

end Roots

theorem wellFormed_of_plain {parts : List String}
    (h : ∀ part ∈ parts, part ≠ "" ∧ hasWildcard part = false) : WellFormed parts := by
  induction parts using List.reverseRecOn with
  | nil => exact ⟨by simp, .nil⟩
  | append_singleton parts part ih =>
      rw [List.forall_mem_append, List.forall_mem_singleton] at h
      obtain ⟨hparts, hne, hplain⟩ := h
      refine wellFormed_concat.mpr ⟨ih hparts, ⟨hne, .inr (.inr hplain)⟩, ?_⟩
      exact fun hlast => (ne_wildcard_of_plain hplain).2 hlast.2

theorem pieces_treeText (root : Domain) :
    pieces '.' (Tree.mk root).text = root.components ++ ["*"] := by
  have hstar : pieces '.' "*" = ["*"] := by decide +kernel
  cases hglobal : root.isGlobal with
  | true => rw [treeText_global hglobal, Domain.components, if_pos hglobal, hstar, List.nil_append]
  | false =>
      have hdot : ".".toList = ['.'] := rfl
      have htext : root.text ++ ".*" = root.text ++ "." ++ "*" := by
        rw [String.append_assoc]
        rfl
      rw [treeText_of_not_global hglobal, htext, pieces_append_sep hdot, hstar, Domain.components,
        if_neg (by simp [hglobal])]

theorem hasWildcard_treeText (root : Domain) : hasWildcard (Tree.mk root).text = true := by
  cases hglobal : root.isGlobal with
  | true =>
      rw [treeText_global hglobal]
      rfl
  | false =>
      rw [treeText_of_not_global hglobal]
      exact hasWildcard_append_star root.text

/-- The text of a tree is a wildcard pattern. -/
theorem wildcardParse_treeText {root : Domain} (h : Accepted root) :
    Wildcard.parse (Tree.mk root).text = .ok (starred root) := by
  have hparts := h.parts
  have hwell : WellFormed (root.components ++ ["*"]) := by
    refine wellFormed_concat.mpr ⟨wellFormed_of_plain hparts, ⟨by decide, .inr (.inl rfl)⟩, ?_⟩
    rintro ⟨hlast, -⟩
    have hmem : "*" ∈ root.components := List.mem_of_getLast? hlast
    exact (ne_wildcard_of_plain (hparts "*" hmem).2).2 rfl
  have hliterals : root.components.map componentOf = root.components.map .literal :=
    List.map_congr_left fun part hpart => componentOf_of_plain (hparts part hpart).2
  rw [wildcardParse_of_wellFormed (trim_treeText h) (hasWildcard_treeText root)
    (pieces_treeText root ▸ hwell), pieces_treeText root, List.map_append, hliterals]
  rfl

section Ranks

variable {x y c : Domain}

/-- The relevance of the pattern, where the tree matches. -/
theorem relevance_starred (h : x.components <+: c.components) :
    (starred x).relevance c = maxRelevance - (c.components.length + 1 - x.components.length) := by
  refine relevance_of_lays (lays_starred_iff.mpr ⟨h, ?_⟩)
  have hlength := h.length_le
  omega

theorem prefix_of_covers_starred (h : (Pattern.wildcard (starred x)).covers c = true) :
    x.components <+: c.components := by
  obtain ⟨k, hk⟩ := matches_of_covers h
  exact (lays_starred_iff.mp hk).1

/-- The pattern matches the domains of the tree, but not where the `*` stands for so much that
nothing is left of the relevance. -/
theorem covers_starred_iff :
    (Pattern.wildcard (starred x)).covers c = true ↔
      x.components <+: c.components ∧
        c.components.length + 1 < maxRelevance + x.components.length := by
  constructor
  · intro h
    have hbegins := prefix_of_covers_starred h
    have hpos : 0 < (starred x).relevance c := of_decide_eq_true h
    rw [relevance_starred hbegins] at hpos
    refine ⟨hbegins, ?_⟩
    omega
  · rintro ⟨hbegins, hsize⟩
    have hlength := hbegins.length_le
    refine decide_eq_true ?_
    rw [Pattern.relevance, relevance_starred hbegins]
    omega

theorem relevance_starred_lt (hx : x.components <+: c.components)
    (hy : y.components <+: c.components) (hsize : c.components.length + 1 < maxRelevance)
    (h : IsAncestor y x) : (starred y).relevance c < (starred x).relevance c := by
  have hlt := h.length_lt
  have hxlength := hx.length_le
  rw [relevance_starred hx, relevance_starred hy]
  omega

theorem relevance_tree_lt (hx : Accepted x) (hxc : x.components <+: c.components)
    (hyc : y.components <+: c.components) (hxsize : x.text.utf8ByteSize < maxBytes)
    (hysize : y.text.utf8ByteSize < maxBytes) (h : IsAncestor y x) :
    (Tree.mk y).relevance c < (Tree.mk x).relevance c := by
  have hbytes : maxBytes = 2 ^ 30 := rfl
  have hmax : maxRelevance = 2 ^ 32 - 1 := rfl
  have hxglobal := h.isGlobal_eq_false
  rw [relevance_tree hxglobal (by omega) (matches_tree_iff.mpr hxc)]
  cases hyglobal : y.isGlobal with
  | true =>
      have hne : x.text.utf8ByteSize ≠ 0 :=
        mt String.utf8ByteSize_eq_zero_iff.mp hx.text_ne_empty
      rw [relevance_globalTree hyglobal (matches_tree_iff.mpr hyc)]
      omega
  | false =>
      have hlonger := utf8ByteSize_lt_of_isBelow ((isBelow_eq_true_iff x y).mpr h) hyglobal
      rw [relevance_tree hyglobal (by omega) (matches_tree_iff.mpr hyc)]
      omega

/-- Where two numbers follow the order of two roots, the greater one is that of the lower root. -/
theorem lt_iff_isAncestor_of_line {f : Domain → Nat} (hx : x.components <+: c.components)
    (hy : y.components <+: c.components) (hlt : IsAncestor y x → f y < f x)
    (hgt : IsAncestor x y → f x < f y) : f y < f x ↔ IsAncestor y x := by
  refine ⟨?_, hlt⟩
  intro hscore
  rcases eq_or_isAncestor_of_prefix hx hy with rfl | habove | hbelow
  · exact absurd hscore (Nat.lt_irrefl _)
  · exact absurd hscore (hgt habove).not_gt
  · exact hbelow

end Ranks

/-- A name with so many empty components after its first one. -/
def trailing (n : Nat) : Domain := .ofSymbol (String.ofList ('A' :: List.replicate n '.'))

theorem components_trailing (n : Nat) :
    (trailing n).components = "A" :: List.replicate n "" := by
  have hspellings : ∀ name ∈ Domain.globalSpellings, name.toList.head? ≠ some 'A' := by decide
  have hname : String.ofList ('A' :: List.replicate n '.') ∉ Domain.globalSpellings := by
    intro hmem
    exact hspellings _ hmem (by rw [String.toList_ofList, List.head?_cons])
  have hdot : ('A' : Char) ≠ '.' := by decide
  rw [trailing, Domain.components_ofSymbol hname, pieces, String.toList_ofList, split, if_neg hdot,
    split_replicate, List.replicate_succ]
  change String.ofList ['A'] :: (List.replicate n []).map String.ofList = _
  rw [List.map_replicate]

theorem length_components_trailing (n : Nat) : (trailing n).components.length = n + 1 := by
  rw [components_trailing, List.length_cons, List.length_replicate]

/-- The text of a tree, `*` for the global one and else the root with `.*`, is a wildcard pattern.
It has a cost just for the domains of the tree, it matches no others, and it matches them all but
for those so far below the root that the cost uses up the relevance.  Of two trees over a domain the
one with the lower root is more relevant, and so it is with their wildcard patterns. -/
theorem tree_agrees_with_wildcard :
    (∀ text root, Domain.parse text = .ok root →
      Wildcard.parse (Tree.mk root).text = .ok (starred root) ∧
        ∀ c : Domain,
          ((Pattern.tree ⟨root⟩).covers c = true ↔ ((starred root).cost c.components).isSome) ∧
          ((Pattern.wildcard (starred root)).covers c = true →
            (Pattern.tree ⟨root⟩).covers c = true) ∧
          (c.components.length + 1 < maxRelevance + root.components.length →
            ((Pattern.tree ⟨root⟩).covers c = true ↔
              (Pattern.wildcard (starred root)).covers c = true))) ∧
      ∀ (x y c : Domain) (textx texty : String), Domain.parse textx = .ok x →
        Domain.parse texty = .ok y → x.text.utf8ByteSize < 2 ^ 30 → y.text.utf8ByteSize < 2 ^ 30 →
        c.text.utf8ByteSize < 2 ^ 30 → (Pattern.tree ⟨x⟩).covers c = true →
        (Pattern.tree ⟨y⟩).covers c = true →
        ((Tree.mk y).relevance c < (Tree.mk x).relevance c ↔
            (starred y).relevance c < (starred x).relevance c) ∧
          ((starred y).relevance c < (starred x).relevance c ↔ x.isBelow y = true) := by
  refine ⟨?_, ?_⟩
  · intro text root hroot
    refine ⟨wildcardParse_treeText (accepted_of_parse hroot), ?_⟩
    intro c
    refine ⟨covers_tree_iff.trans isSome_cost_starred_iff.symm,
      fun h => covers_tree_iff.mpr (prefix_of_covers_starred h), ?_⟩
    intro hsize
    exact covers_tree_iff.trans (covers_starred_iff.trans (and_iff_left hsize)).symm
  · intro x y c textx texty hx hy hxsize hysize hcsize hxc hyc
    rw [covers_tree_iff] at hxc hyc
    have hmax : maxRelevance = 2 ^ 32 - 1 := rfl
    have hcount := length_components_le c
    have hcost : c.components.length + 1 < maxRelevance := by omega
    have hwildcards := lt_iff_isAncestor_of_line (f := fun d => (starred d).relevance c) hxc hyc
      (relevance_starred_lt hxc hyc hcost) (relevance_starred_lt hyc hxc hcost)
    have htrees := lt_iff_isAncestor_of_line (f := fun d => (Tree.mk d).relevance c) hxc hyc
      (relevance_tree_lt (accepted_of_parse hx) hxc hyc hxsize hysize)
      (relevance_tree_lt (accepted_of_parse hy) hyc hxc hysize hxsize)
    rw [isBelow_eq_true_iff]
    exact ⟨htrees.trans hwildcards.symm, hwildcards⟩

/-- The lower root is preferred both ways, also for a name that no policy could give. -/
theorem lower_root_preferred :
    let x : Domain := ⟨"Ä.B"⟩
    let y : Domain := ⟨"Ä"⟩
    let c : Domain := .ofSymbol "Ä.B..C"
    Domain.parse " Ä.B" = .ok x ∧ Domain.parse "Ä" = .ok y ∧
      x.text.utf8ByteSize < 2 ^ 30 ∧ y.text.utf8ByteSize < 2 ^ 30 ∧ c.text.utf8ByteSize < 2 ^ 30 ∧
      (Pattern.tree ⟨x⟩).covers c = true ∧ (Pattern.tree ⟨y⟩).covers c = true ∧
      Wildcard.parse "Ä.B.*" = .ok (starred x) ∧
      (Pattern.wildcard (starred x)).covers c = true ∧
      (Tree.mk y).relevance c < (Tree.mk x).relevance c ∧
      (starred y).relevance c < (starred x).relevance c := by
  intro x y c
  have hx : Domain.parse " Ä.B" = .ok x := by decide +kernel
  have hy : Domain.parse "Ä" = .ok y := by decide +kernel
  have hxsize : x.text.utf8ByteSize < 2 ^ 30 := by decide +kernel
  have hysize : y.text.utf8ByteSize < 2 ^ 30 := by decide +kernel
  have hcsize : c.text.utf8ByteSize < 2 ^ 30 := by decide +kernel
  have hxc : (Pattern.tree ⟨x⟩).covers c = true := by decide +kernel
  have hyc : (Pattern.tree ⟨y⟩).covers c = true := by decide +kernel
  have hcost : c.components.length + 1 < maxRelevance + x.components.length := by decide +kernel
  obtain ⟨hread, hmatches⟩ := tree_agrees_with_wildcard.1 _ x hx
  obtain ⟨hranks, hbelow⟩ :=
    tree_agrees_with_wildcard.2 x y c _ _ hx hy hxsize hysize hcsize hxc hyc
  have hlower : x.isBelow y = true := by decide +kernel
  exact ⟨hx, hy, hxsize, hysize, hcsize, hxc, hyc, hread, ((hmatches c).2.2 hcost).mp hxc,
    hranks.mpr (hbelow.mpr hlower), hbelow.mpr hlower⟩

/-- A name so long that the `*` uses up all relevance is in the tree and not matched by the pattern,
both under a root and under the global one.  And a blank after a name, which a tree leaves out,
belongs to a literal of the pattern. -/
theorem tree_outreaches_wildcard :
    let root : Domain := ⟨"A"⟩
    let blank : Wildcard := ⟨[.literal "A ", .anyMany]⟩
    (Domain.parse "A" = .ok root ∧ Wildcard.parse "A.*" = .ok (starred root) ∧
      (trailing (2 ^ 32 - 2)).components.length = 2 ^ 32 - 1 ∧
      (Pattern.tree ⟨root⟩).covers (trailing (2 ^ 32 - 2)) = true ∧
      (Pattern.wildcard (starred root)).covers (trailing (2 ^ 32 - 2)) = false) ∧
    (Wildcard.parse "*" = .ok (starred .global) ∧
      (trailing (2 ^ 32 - 3)).components.length = 2 ^ 32 - 2 ∧
      (Pattern.tree ⟨.global⟩).covers (trailing (2 ^ 32 - 3)) = true ∧
      (Pattern.wildcard (starred .global)).covers (trailing (2 ^ 32 - 3)) = false) ∧
    Domain.parse "A " = .ok root ∧ Wildcard.parse ("A " ++ ".*") = .ok blank ∧
      (Pattern.tree ⟨root⟩).covers root = true ∧
      (Pattern.wildcard blank).covers root = false := by
  have hmax : maxRelevance = 2 ^ 32 - 1 := rfl
  have hnamed := length_components_trailing (2 ^ 32 - 2)
  have hunnamed := length_components_trailing (2 ^ 32 - 3)
  intro root blank
  have hroot : root.components = ["A"] := by decide +kernel
  refine ⟨⟨by decide +kernel, by decide +kernel, by omega, ?_, ?_⟩,
    ⟨by decide +kernel, by omega, covers_tree_iff.mpr List.nil_prefix, ?_⟩, by decide +kernel⟩
  · rw [covers_tree_iff, hroot, components_trailing]
    exact ⟨_, rfl⟩
  · refine Bool.eq_false_iff.mpr fun h => ?_
    have hsize := (covers_starred_iff.mp h).2
    rw [hroot, List.length_singleton] at hsize
    omega
  · refine Bool.eq_false_iff.mpr fun h => ?_
    have hsize : _ < maxRelevance + 0 := (covers_starred_iff.mp h).2
    omega

end NamespacePolicy.Proofs.TreeWildcards
