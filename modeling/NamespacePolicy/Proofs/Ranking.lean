import Mathlib.Data.Set.Basic
import NamespacePolicy.Pattern.Basic
import NamespacePolicy.Proofs.Alignment
import NamespacePolicy.Proofs.Separation

/-!
How the kinds of patterns rank.  The kinds score on scales of their own: by what it costs to lay
them over a name, by the length of a root, or not at all.  While names and patterns are not
gigantic each kind keeps to its own band of relevances, whatever the patterns are.
-/

namespace NamespacePolicy.Proofs.Ranking

open Proofs.Alignment Separation

/-- The patterns that there can be.  A wildcard pattern comes from a text; what stands for a tree
is its root, which may be any domain that has a name. -/
inductive Made : Pattern → Prop
  | exact (d : Domain) : Made (.exact d)
  | wildcard {text : String} {w : Wildcard} (h : Wildcard.parse text = .ok w) : Made (.wildcard w)
  | expression (e : Expression) : Made (.expression e)
  | tree (name : String) : Made (.tree ⟨.ofSymbol name⟩)

/-- What it means that a pattern matches, apart from any relevance. -/
def Matches (c : Domain) : Pattern → Prop
  | .exact d => d = c
  | .wildcard w => ∃ k, Lays w.components c.components k
  | .expression e => e.meaning.foundIn c.text.toList = true
  | .tree t => c = t.root ∨ c.isBelow t.root = true

theorem ofSymbol_text_ne_empty (name : String) : (Domain.ofSymbol name).text ≠ "" := by
  rw [Domain.ofSymbol]
  split
  · decide
  · next h =>
    rintro rfl
    exact h (by decide)

theorem ofSymbol_of_parse {text : String} {d : Domain} (h : Domain.parse text = .ok d) :
    ∃ name, d = .ofSymbol name := by
  simp only [Domain.parse] at h
  split_ifs at h with hglobal
  · obtain rfl := Except.ok.inj h
    exact ⟨".", rfl⟩
  · obtain rfl := Except.ok.inj h
    exact ⟨Text.trim text, (if_neg hglobal).symm⟩

theorem not_all_literal_of_parse {text : String} {w : Wildcard} (h : Wildcard.parse text = .ok w) :
    w.components.all WildcardComponent.isLiteral = false := by
  simp only [Wildcard.parse, bind, Except.bind] at h
  split at h
  · simp at h
  · split_ifs at h with hall
    obtain rfl := Except.ok.inj h
    simpa using hall

theorem exists_of_map_eq_ok {ε α β : Type} {f : α → β} {x : Except ε α} {b : β}
    (h : x.map f = .ok b) : ∃ a, x = .ok a ∧ f a = b := by
  cases x with
  | error e => simp [Except.map] at h
  | ok a => exact ⟨a, rfl, Except.ok.inj h⟩

theorem made_of_treeParse {text : String} {t : Tree} (h : Tree.parse text = .ok t) :
    Made (.tree t) := by
  simp only [Tree.parse] at h
  split at h
  · obtain rfl := Except.ok.inj h
    exact .tree "."
  · split at h
    · split_ifs at h
      obtain ⟨d, hd, rfl⟩ := exists_of_map_eq_ok h
      obtain ⟨name, rfl⟩ := ofSymbol_of_parse hd
      exact .tree name
    · simp at h

theorem made_of_parse {kind : PatternSyntax} {text : String} {p : Pattern}
    (h : Pattern.parse kind text = .ok p) : Made p := by
  simp only [Pattern.parse] at h
  split_ifs at h
  · obtain ⟨e, -, rfl⟩ := exists_of_map_eq_ok h
    exact .expression e
  · obtain ⟨d, -, rfl⟩ := exists_of_map_eq_ok h
    exact .exact d
  · cases kind with
    | wildcard =>
        obtain ⟨w, hw, rfl⟩ := exists_of_map_eq_ok h
        exact .wildcard hw
    | tree =>
        obtain ⟨t, ht, rfl⟩ := exists_of_map_eq_ok h
        exact made_of_treeParse ht

inductive Tier where
  | unranked
  | tree
  | wildcard
  | exact
deriving DecidableEq

def Tier.rank : Tier → Nat
  | unranked => 0
  | tree => 1
  | wildcard => 2
  | exact => 3

/-- Expressions are not ranked, and neither is the global tree. -/
def tier : Pattern → Tier
  | .exact _ => .exact
  | .wildcard _ => .wildcard
  | .expression _ => .unranked
  | .tree t => if t.root.isGlobal then .unranked else .tree

/-- The length in bytes below which names and patterns leave the tiers apart. -/
def maxBytes : Nat := 2 ^ 30

/-- The relevances of a tier. -/
def Tier.Band (relevance : Nat) : Tier → Prop
  | unranked => relevance = 1
  | tree => 1 < relevance ∧ relevance ≤ maxBytes
  | wildcard => maxBytes < relevance ∧ relevance < maxRelevance
  | exact => relevance = maxRelevance

theorem Tier.Band.lt {a b : Tier} {r s : Nat} (ha : a.Band r) (hb : b.Band s)
    (h : a.rank < b.rank) : r < s := by
  have hbytes : maxBytes = 2 ^ 30 := rfl
  have hmax : maxRelevance = 2 ^ 32 - 1 := rfl
  cases a <;> cases b <;> simp only [Tier.rank, Tier.Band] at h ha hb <;> omega

theorem Tier.Band.pos {a : Tier} {r : Nat} (h : a.Band r) : 0 < r := by
  have hmax : maxRelevance = 2 ^ 32 - 1 := rfl
  cases a <;> simp only [Tier.Band] at h <;> omega

section Relevances

variable {c : Domain}

theorem length_components_le (c : Domain) : c.components.length ≤ c.text.utf8ByteSize + 1 := by
  rw [Domain.components]
  split
  · exact Nat.zero_le _
  · exact length_pieces_le '.' c.text

theorem length_wildcard_le (w : Wildcard) : w.components.length ≤ w.text.utf8ByteSize + 1 := by
  have hdot : ".".toList = ['.'] := rfl
  have hlength := length_le_of_joined hdot (w.components.map WildcardComponent.text)
  rwa [List.length_map] at hlength

theorem band_wildcard {text : String} {w : Wildcard} (hw : Wildcard.parse text = .ok w)
    (hc : c.text.utf8ByteSize < maxBytes) (hsize : w.text.utf8ByteSize < maxBytes)
    (h : Matches c (.wildcard w)) : Tier.wildcard.Band (w.relevance c) := by
  obtain ⟨k, hk⟩ := h
  have hcost : w.cost c.components = some k := least_eq_some_iff.mpr hk
  have hpos : 0 < k := hk.cost_pos (not_all_literal_of_parse hw)
  have hle : k ≤ c.components.length + w.components.length := hk.cost_le
  have hname := length_components_le c
  have hpattern := length_wildcard_le w
  have hbytes : maxBytes = 2 ^ 30 := rfl
  have hmax : maxRelevance = 2 ^ 32 - 1 := rfl
  simp only [Tier.Band, Wildcard.relevance, hcost]
  omega

theorem utf8ByteSize_lt_of_isBelow {root : Domain} (h : c.isBelow root = true)
    (hroot : root.isGlobal = false) : root.text.utf8ByteSize < c.text.utf8ByteSize := by
  rw [Domain.isBelow] at h
  split_ifs at h with _ hglobal
  · exact absurd hglobal (by rw [hroot]; exact Bool.false_ne_true)
  have hprefix := String.utf8Len_le_of_prefix (List.isPrefixOf_iff_prefix.mp h)
  rw [String.utf8Len_append, String.utf8Len_toList, String.utf8Len_toList] at hprefix
  have hdot : String.utf8Len ['.'] = 1 := rfl
  omega

theorem relevance_globalTree {root : Domain} (hroot : root.isGlobal = true)
    (h : Matches c (.tree ⟨root⟩)) : (Tree.mk root).relevance c = 1 := by
  have hunder : c = root ∨ c.isBelow root = true := h
  simp only [Tree.relevance]
  rw [if_pos hunder, if_pos hroot]

theorem relevance_tree {root : Domain} (hroot : root.isGlobal = false)
    (hsmall : root.text.utf8ByteSize + 1 ≤ maxRelevance) (h : Matches c (.tree ⟨root⟩)) :
    (Tree.mk root).relevance c = root.text.utf8ByteSize + 1 := by
  have hunder : c = root ∨ c.isBelow root = true := h
  simp only [Tree.relevance, hroot]
  rw [if_pos hunder, if_neg Bool.false_ne_true, if_pos hsmall]

theorem band_tree {root : Domain} (hname : root.text ≠ "") (hroot : root.isGlobal = false)
    (hc : c.text.utf8ByteSize < maxBytes) (h : Matches c (.tree ⟨root⟩)) :
    Tier.tree.Band ((Tree.mk root).relevance c) := by
  have hpos : 0 < root.text.utf8ByteSize := by
    rw [Nat.pos_iff_ne_zero, Ne, String.utf8ByteSize_eq_zero_iff]
    exact hname
  have hle : root.text.utf8ByteSize ≤ c.text.utf8ByteSize := by
    rcases h with rfl | hbelow
    · exact Nat.le_refl _
    · exact (utf8ByteSize_lt_of_isBelow hbelow hroot).le
  have hbytes : maxBytes = 2 ^ 30 := rfl
  have hmax : maxRelevance = 2 ^ 32 - 1 := rfl
  have hsmall : root.text.utf8ByteSize + 1 ≤ maxRelevance := by omega
  rw [relevance_tree hroot hsmall h]
  simp only [Tier.Band]
  omega

/-- A pattern that matches scores in the band of its tier. -/
theorem band_relevance {p : Pattern} (hp : Made p) (hc : c.text.utf8ByteSize < maxBytes)
    (hsize : p.text.utf8ByteSize < maxBytes) (h : Matches c p) :
    (tier p).Band (p.relevance c) := by
  cases hp with
  | exact d => exact if_pos h
  | wildcard hw => exact band_wildcard hw hc hsize h
  | expression e => exact if_pos h
  | tree name =>
      cases hroot : (Domain.ofSymbol name).isGlobal with
      | true =>
          simp only [tier, Pattern.relevance, hroot, if_true, Tier.Band]
          exact relevance_globalTree hroot h
      | false =>
          have hband := band_tree (ofSymbol_text_ne_empty name) hroot hc h
          simpa only [tier, Pattern.relevance, hroot, Bool.false_eq_true, if_false] using hband

theorem matches_of_covers {p : Pattern} (h : p.covers c = true) : Matches c p := by
  have hpos : 0 < p.relevance c := of_decide_eq_true h
  cases p with
  | exact d => exact (ite_ne_right_iff.mp hpos.ne').1
  | wildcard w =>
      simp only [Pattern.relevance, Wildcard.relevance] at hpos
      split at hpos
      · next k hk => exact ⟨k, least_eq_some_iff.mp hk⟩
      · exact absurd hpos (Nat.lt_irrefl 0)
  | expression e => exact (ite_ne_right_iff.mp hpos.ne').1
  | tree t => exact (ite_ne_right_iff.mp hpos.ne').1

/-- A relevance is zero just when the pattern does not match. -/
theorem covers_iff_matches {p : Pattern} (hp : Made p) (hc : c.text.utf8ByteSize < maxBytes)
    (hsize : p.text.utf8ByteSize < maxBytes) : p.covers c = true ↔ Matches c p :=
  ⟨matches_of_covers, fun h => decide_eq_true (band_relevance hp hc hsize h).pos⟩

end Relevances

/-- Of patterns that match a name, those of a higher tier are more relevant.  An exact pattern
has the greatest relevance there is, and an unranked one has the least. -/
theorem relevance_ranked {c : Domain} {patterns : Set Pattern} (hc : c.text.utf8ByteSize < 2 ^ 30)
    (hpatterns : ∀ p ∈ patterns, Made p ∧ p.text.utf8ByteSize < 2 ^ 30 ∧ Matches c p) :
    (∀ p ∈ patterns, 0 < p.relevance c) ∧
      (∀ p ∈ patterns, tier p = .exact → p.relevance c = maxRelevance) ∧
      (∀ p ∈ patterns, tier p = .unranked → p.relevance c = 1) ∧
      ∀ p ∈ patterns, ∀ q ∈ patterns, (tier p).rank < (tier q).rank →
        p.relevance c < q.relevance c := by
  have hband : ∀ p ∈ patterns, (tier p).Band (p.relevance c) := by
    intro p hp
    obtain ⟨hmade, hsize, hmatches⟩ := hpatterns p hp
    exact band_relevance hmade hc hsize hmatches
  refine ⟨?_, ?_, ?_, ?_⟩
  · intro p hp
    obtain ⟨hmade, hsize, hmatches⟩ := hpatterns p hp
    exact of_decide_eq_true ((covers_iff_matches hmade hc hsize).mpr hmatches)
  · intro p hp htier
    simpa only [htier, Tier.Band] using hband p hp
  · intro p hp htier
    simpa only [htier, Tier.Band] using hband p hp
  · intro p hp q hq hrank
    exact (hband p hp).lt (hband q hq) hrank

/-- Five patterns for `A.B`, of which the first two are not ranked. -/
theorem five_patterns_ranked :
    ∃ e : Expression, e.body = "A\\.B" ∧
      let c : Domain := ⟨"A.B"⟩
      let patterns : List Pattern :=
        [.expression e, .tree ⟨.global⟩, .tree ⟨⟨"A"⟩⟩, .wildcard ⟨[.literal "A", .anyOne]⟩,
          .exact c]
      c.text.utf8ByteSize < 2 ^ 30 ∧
        (∀ p ∈ patterns, Made p ∧ p.text.utf8ByteSize < 2 ^ 30 ∧ Matches c p) ∧
        patterns.map tier = [.unranked, .unranked, .tree, .wildcard, .exact] ∧
        (∀ p ∈ patterns, 0 < p.relevance c) ∧
        ∀ p ∈ patterns, ∀ q ∈ patterns, (tier p).rank < (tier q).rank →
          p.relevance c < q.relevance c := by
  have hcompiled : (Regex.compile? (anchored "A\\.B".toList)).any
      (·.foundIn "A.B".toList) = true := by decide +kernel
  obtain ⟨meaning, hmeaning, hfound⟩ := (Option.any_eq_true ..).mp hcompiled
  refine ⟨⟨"A\\.B", meaning, hmeaning⟩, rfl, ?_⟩
  intro c patterns
  have hpatterns : ∀ p ∈ patterns, Made p ∧ p.text.utf8ByteSize < 2 ^ 30 ∧ Matches c p := by
    have hglobal : Pattern.parse .tree "*" = .ok (.tree ⟨.global⟩) := by decide +kernel
    have htree : Pattern.parse .tree "A.*" = .ok (.tree ⟨⟨"A"⟩⟩) := by decide +kernel
    have hwildcard : Pattern.parse .wildcard "A.?" =
        .ok (.wildcard ⟨[.literal "A", .anyOne]⟩) := by decide +kernel
    have hsize : ("/" ++ "A\\.B" ++ "/").utf8ByteSize < 2 ^ 30 := by decide
    have hcomponents : c.components = ["A", "B"] := by decide +kernel
    simp only [patterns, List.forall_mem_cons]
    exact ⟨⟨.expression _, hsize, hfound⟩, ⟨made_of_parse hglobal, by decide, .inr (by decide)⟩,
      ⟨made_of_parse htree, by decide, .inr (by decide)⟩,
      ⟨made_of_parse hwildcard, by decide, 1, hcomponents ▸ .literal "A" (.anyOne "B" .nil)⟩,
      ⟨.exact _, by decide, rfl⟩, by simp⟩
  have hc : c.text.utf8ByteSize < 2 ^ 30 := by decide
  obtain ⟨hpos, -, -, hranked⟩ := @relevance_ranked c {p | p ∈ patterns} hc hpatterns
  exact ⟨hc, hpatterns, rfl, hpos, hranked⟩

end NamespacePolicy.Proofs.Ranking
