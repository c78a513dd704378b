import Mathlib.Order.Bounds.Defs
import NamespacePolicy.Proofs.Ranking

/-!
What a wildcard pattern scores for a name.  The table of costs gives the least of what the ways
cost in which the pattern can be laid over the components of the name.  Where names and patterns
are not too long to be counted, the score is what this leaves of the greatest relevance, and there
is a score just when there is a way.  All ways cost the same, so patterns rank in an order of their
own whatever the name is.
-/

namespace NamespacePolicy.Proofs.WildcardScore

open Proofs.Alignment Ranking

section Costs

variable {pattern : List WildcardComponent} {names : List String} {j k : Nat}

theorem cost_unique (hj : Lays pattern names j) (hk : Lays pattern names k) : j = k := by
  have hcostj := hj.cost_add_literals
  have hcostk := hk.cost_add_literals
  omega

theorem least_eq_some_iff_isLeast :
    least pattern names = some k ↔ IsLeast {j | Lays pattern names j} k := by
  rw [least_eq_some_iff]
  constructor
  · intro hk
    refine ⟨hk, ?_⟩
    intro j hj
    exact (cost_unique hk hj).le
  · intro hk
    exact hk.1

theorem least_eq_none_iff :
    least pattern names = none ↔ ∀ k, ¬ Lays pattern names k := by
  simp only [Option.eq_none_iff_forall_ne_some, ne_eq, least_eq_some_iff]

end Costs

section Scores

variable {w : Wildcard} {c : Domain} {k : Nat}

theorem relevance_of_lays (hk : Lays w.components c.components k) :
    w.relevance c = maxRelevance - k := by
  have hcost : w.cost c.components = some k := least_eq_some_iff.mpr hk
  simp only [Wildcard.relevance, hcost]

theorem relevance_of_not_lays (h : ∀ k, ¬ Lays w.components c.components k) :
    w.relevance c = 0 := by
  have hcost : w.cost c.components = none := least_eq_none_iff.mpr h
  simp only [Wildcard.relevance, hcost]

end Scores

/-- The cost of a pattern is the least cost of a way to lay it over the name, and nothing when
there is no way.  The relevance then lies strictly between none and that of an exact match. -/
theorem cost_isLeast {text : String} {w : Wildcard} (hw : Wildcard.parse text = .ok w) {c : Domain}
    (hsize : c.components.length + w.components.length < 2 ^ 32 - 1) :
    (∀ k, w.cost c.components = some k ↔ IsLeast {j | Lays w.components c.components j} k) ∧
      (w.cost c.components = none ↔ ∀ k, ¬ Lays w.components c.components k) ∧
      (∀ k, w.cost c.components = some k →
        w.relevance c + k = maxRelevance ∧ 0 < w.relevance c ∧ w.relevance c < maxRelevance) ∧
      (w.relevance c = 0 ↔ ∀ k, ¬ Lays w.components c.components k) := by
  have hscore : ∀ k, Lays w.components c.components k →
      w.relevance c + k = maxRelevance ∧ 0 < w.relevance c ∧ w.relevance c < maxRelevance := by
    intro k hk
    have hpos : 0 < k := hk.cost_pos (not_all_literal_of_parse hw)
    have hle : k ≤ c.components.length + w.components.length := hk.cost_le
    have hmax : maxRelevance = 2 ^ 32 - 1 := rfl
    rw [relevance_of_lays hk]
    omega
  refine ⟨fun k => least_eq_some_iff_isLeast, least_eq_none_iff, ?_, ?_⟩
  · intro k hk
    exact hscore k (least_eq_some_iff.mp hk)
  · constructor
    · intro hzero k hk
      have hpos := (hscore k hk).2.1
      omega
    · exact relevance_of_not_lays

/-- Both wildcards can take more than one component here, but every way costs the same. -/
theorem two_stars_cost_isLeast :
    let w : Wildcard := ⟨[.literal "A", .anyMany, .anyOne, .anyMany, .literal "C"]⟩
    let c : Domain := ⟨"A.C.B.B.C"⟩
    Wildcard.parse "A.*.?.*.C" = .ok w ∧
      c.components.length + w.components.length < 2 ^ 32 - 1 ∧
      IsLeast {j | Lays w.components c.components j} 5 ∧
      w.relevance c + 5 = maxRelevance ∧ 0 < w.relevance c ∧ w.relevance c < maxRelevance := by
  intro w c
  have hw : Wildcard.parse "A.*.?.*.C" = .ok w := by decide +kernel
  have hsize : c.components.length + w.components.length < 2 ^ 32 - 1 := by decide +kernel
  have hcost : w.cost c.components = some 5 := by decide +kernel
  obtain ⟨hleast, -, hscore, -⟩ := cost_isLeast hw hsize
  exact ⟨hw, hsize, (hleast 5).mp hcost, hscore 5 hcost⟩

def literals (w : Wildcard) : Nat := w.components.countP WildcardComponent.isLiteral

def stars (w : Wildcard) : Nat := w.components.count .anyMany

/-- What decides between two patterns, whatever the name. -/
def specificity (w : Wildcard) : Int := literals w - stars w

/-- The pattern matches the name, and both are short enough for costs to be counted. -/
structure Matched (w : Wildcard) (c : Domain) : Prop where
  size : c.components.length + w.components.length < 2 ^ 32 - 1
  relevant : 0 < w.relevance c

theorem lays_cost_eq {w : Wildcard} {c : Domain} {k : Nat}
    (hk : Lays w.components c.components k) :
    (k : Int) = c.components.length + stars w - literals w := by
  have hcost : k + literals w = c.components.length + stars w := hk.cost_add_literals
  omega

section Order

variable {p q : Wildcard} {c : Domain}

theorem exists_lays_of_matched (h : Matched p c) : ∃ k, Lays p.components c.components k := by
  by_contra hnone
  have hzero : p.relevance c = 0 := relevance_of_not_lays (not_exists.mp hnone)
  exact h.relevant.ne' hzero

/-- What a pattern scores is its specificity, up to a number that depends on the name only. -/
theorem relevance_eq_specificity (h : Matched p c) :
    (p.relevance c : Int) = maxRelevance - c.components.length + specificity p := by
  obtain ⟨k, hk⟩ := exists_lays_of_matched h
  have hle : k ≤ c.components.length + p.components.length := hk.cost_le
  have hcost := lays_cost_eq hk
  have hsize := h.size
  have hmax : maxRelevance = 2 ^ 32 - 1 := rfl
  rw [relevance_of_lays hk, specificity]
  omega

theorem relevance_lt_iff_specificity_lt (hp : Matched p c) (hq : Matched q c) :
    q.relevance c < p.relevance c ↔ specificity q < specificity p := by
  have hpc := relevance_eq_specificity hp
  have hqc := relevance_eq_specificity hq
  omega

end Order

/-- Whichever way a pattern is laid over a name that it matches, it costs the same.  Of two
patterns that match a name the one with more literals, less its `*`, is more relevant, so they
compare in the same way for every other name that both match. -/
theorem cost_fixed_order_fixed :
    (∀ (w : Wildcard) (c : Domain), Matched w c →
      ∃ k : Nat, (k : Int) = c.components.length + stars w - literals w ∧
        w.cost c.components = some k ∧ ∀ j, Lays w.components c.components j ↔ j = k) ∧
      ∀ (p q : Wildcard) (c : Domain), Matched p c → Matched q c →
        (q.relevance c < p.relevance c ↔
          (literals q : Int) - stars q < (literals p : Int) - stars p) ∧
        (q.relevance c = p.relevance c ↔
          (literals q : Int) - stars q = (literals p : Int) - stars p) ∧
        ∀ d, Matched p d → Matched q d →
          (q.relevance c < p.relevance c ↔ q.relevance d < p.relevance d) := by
  refine ⟨?_, ?_⟩
  · intro w c h
    obtain ⟨k, hk⟩ := exists_lays_of_matched h
    refine ⟨k, lays_cost_eq hk, least_eq_some_iff.mpr hk, fun j => ⟨?_, ?_⟩⟩
    · intro hj
      exact cost_unique hj hk
    · rintro rfl
      exact hk
  · intro p q c hp hq
    have hlt := relevance_lt_iff_specificity_lt hp hq
    have hgt := relevance_lt_iff_specificity_lt hq hp
    have heq : q.relevance c = p.relevance c ↔ specificity q = specificity p := by omega
    refine ⟨hlt, heq, ?_⟩
    intro d hpd hqd
    rw [hlt, relevance_lt_iff_specificity_lt hpd hqd]

/-- The first pattern has one literal and one `*` more, which together change nothing. -/
theorem literal_and_star_cancel :
    let p : Wildcard := ⟨[.literal "A", .anyMany, .anyOne, .anyMany, .literal "C"]⟩
    let q : Wildcard := ⟨[.anyMany, .anyOne, .literal "C"]⟩
    let c : Domain := ⟨"A.C.B.C"⟩
    let d : Domain := ⟨"A.B.C"⟩
    Wildcard.parse "A.*.?.*.C" = .ok p ∧ Wildcard.parse "*.?.C" = .ok q ∧
      Matched p c ∧ Matched q c ∧ Matched p d ∧ Matched q d ∧
      (∀ j, Lays p.components c.components j ↔ j = 4) ∧
      q.relevance c = p.relevance c ∧
      (q.relevance c < p.relevance c ↔ q.relevance d < p.relevance d) := by
  intro p q c d
  have hp : Wildcard.parse "A.*.?.*.C" = .ok p := by decide +kernel
  have hq : Wildcard.parse "*.?.C" = .ok q := by decide +kernel
  have hpc : Matched p c := ⟨by decide +kernel, by decide +kernel⟩
  have hqc : Matched q c := ⟨by decide +kernel, by decide +kernel⟩
  have hpd : Matched p d := ⟨by decide +kernel, by decide +kernel⟩
  have hqd : Matched q d := ⟨by decide +kernel, by decide +kernel⟩
  obtain ⟨k, hcost, -, hways⟩ := cost_fixed_order_fixed.1 p c hpc
  have hk : (k : Int) = 4 := hcost.trans (by decide +kernel)
  obtain rfl : k = 4 := by omega
  obtain ⟨-, hties, hsame⟩ := cost_fixed_order_fixed.2 p q c hpc hqc
  have heq : (literals q : Int) - stars q = (literals p : Int) - stars p := by decide +kernel
  exact ⟨hp, hq, hpc, hqc, hpd, hqd, hways, hties.mpr heq, hsame d hpd hqd⟩

end NamespacePolicy.Proofs.WildcardScore
