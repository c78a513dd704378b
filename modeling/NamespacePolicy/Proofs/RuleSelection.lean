import Mathlib.Data.Prod.Lex
import NamespacePolicy.Proofs.Accumulation
import NamespacePolicy.Rule

/-!
Which rule decides.  A pass over the rules keeps the best one so far and replaces it only by a
strictly better one; the rule it ends with is the first of those that nothing outranks.
-/

namespace NamespacePolicy.Proofs.RuleSelection

open Accumulation

/-- The rank of a rule that covers both sides: the using side counts first. -/
def rank (source target : Domain) (r : Rule) : ℕ ×ₗ ℕ :=
  toLex (r.source.relevance source, r.target.relevance target)

/-- The rule at `i` covers both sides; of those that do, none has a higher rank, and none before
it has the same. -/
def IsMostRelevant (rules : List Rule) (source target : Domain) (i : Nat) : Prop :=
  ∃ r, rules[i]? = some r ∧ r.covers source target = true ∧
    ∀ j other, rules[j]? = some other → other.covers source target = true →
      rank source target other ≤ rank source target r ∧
        (rank source target other = rank source target r → i ≤ j)

theorem IsMostRelevant.unique {rules : List Rule} {source target : Domain} {i j : Nat}
    (hi : IsMostRelevant rules source target i) (hj : IsMostRelevant rules source target j) :
    i = j := by
  obtain ⟨r, hr, hrCovers, hrBest⟩ := hi
  obtain ⟨s, hs, hsCovers, hsBest⟩ := hj
  have hrank : rank source target r = rank source target s :=
    le_antisymm (hsBest i r hr hrCovers).1 (hrBest j s hs hsCovers).1
  exact le_antisymm ((hrBest j s hs hsCovers).2 hrank.symm) ((hsBest i r hr hrCovers).2 hrank)

theorem covers_iff (p : Pattern) (d : Domain) : p.covers d = true ↔ 0 < p.relevance d := by
  simp [Pattern.covers]

theorem relevance_eq_none_iff (r : Rule) (source target : Domain) :
    r.relevance source target = none ↔ r.covers source target = false := by
  rw [← Bool.not_eq_true, Rule.covers, Bool.and_eq_true, covers_iff, covers_iff]
  simp only [Rule.relevance]
  split
  · simp [*]
  · split
    · simp [*]
    · simp only [reduceCtorEq, false_iff, not_not]
      omega

theorem relevance_eq_some_iff (r : Rule) (source target : Domain) (top : Nat × Nat) :
    r.relevance source target = some top ↔
      r.covers source target = true ∧ rank source target r = toLex top := by
  rw [Rule.covers, Bool.and_eq_true, covers_iff, covers_iff, rank, toLex_inj]
  simp only [Rule.relevance]
  split
  · simp [*]
  · split
    · simp [*]
    · simp only [Option.some.injEq, iff_and_self]
      omega

theorem outranks_iff (a b : Nat × Nat) : outranks a b = true ↔ toLex b < toLex a := by
  rw [Prod.Lex.toLex_lt_toLex, outranks, Bool.or_eq_true, Bool.and_eq_true, decide_eq_true_eq,
    decide_eq_true_eq, beq_iff_eq, eq_comm]

/-- What a pass over `rules` may have as the best: nothing if none covers both sides, and else the
most relevant rule with its relevance. -/
def Leads (source target : Domain) (rules : List Rule) : Option (Nat × (Nat × Nat)) → Prop
  | none => ∀ r ∈ rules, r.covers source target = false
  | some (i, top) =>
      (∃ r, rules[i]? = some r ∧ r.relevance source target = some top) ∧
        ∀ j other, rules[j]? = some other → other.covers source target = true →
          rank source target other ≤ toLex top ∧
            (rank source target other = toLex top → i ≤ j)

section Pass

variable {source target : Domain} {seen : List Rule} {rule : Rule}

theorem leads_snoc_of_not_covers {best : Option (Nat × (Nat × Nat))}
    (h : Leads source target seen best) (hrule : rule.covers source target = false) :
    Leads source target (seen ++ [rule]) best := by
  rcases best with _ | ⟨i, top⟩
  · intro r hr
    rcases List.mem_append.mp hr with hr | hr
    · exact h r hr
    · rw [List.mem_singleton.mp hr]
      exact hrule
  · obtain ⟨⟨r, hr, htop⟩, hbest⟩ := h
    refine ⟨⟨r, (getElem?_snoc_eq_some_iff ..).mpr (.inl hr), htop⟩, ?_⟩
    intro j other hother hcovers
    rcases (getElem?_snoc_eq_some_iff ..).mp hother with hother | ⟨-, rfl⟩
    · exact hbest j other hother hcovers
    · simp [hrule] at hcovers

theorem leads_snoc_of_outranks {top : Nat × Nat}
    (hrule : rule.relevance source target = some top)
    (hbelow : ∀ other ∈ seen, other.covers source target = true →
      rank source target other < toLex top) :
    Leads source target (seen ++ [rule]) (some (seen.length, top)) := by
  refine ⟨⟨rule, by simp, hrule⟩, ?_⟩
  intro j other hother hcovers
  rcases (getElem?_snoc_eq_some_iff ..).mp hother with hother | ⟨rfl, rfl⟩
  · have hlt := hbelow other (List.mem_of_getElem? hother) hcovers
    exact ⟨hlt.le, fun heq => absurd heq hlt.ne⟩
  · exact ⟨((relevance_eq_some_iff ..).mp hrule).2.le, fun _ => le_rfl⟩

theorem leads_snoc_of_not_outranks {i : Nat} {top new : Nat × Nat}
    (h : Leads source target seen (some (i, top)))
    (hrule : rule.relevance source target = some new) (hle : toLex new ≤ toLex top) :
    Leads source target (seen ++ [rule]) (some (i, top)) := by
  obtain ⟨⟨r, hr, htop⟩, hbest⟩ := h
  refine ⟨⟨r, (getElem?_snoc_eq_some_iff ..).mpr (.inl hr), htop⟩, ?_⟩
  intro j other hother hcovers
  rcases (getElem?_snoc_eq_some_iff ..).mp hother with hother | ⟨rfl, rfl⟩
  · exact hbest j other hother hcovers
  · have hi : i < seen.length := (List.getElem?_eq_some_iff.mp hr).1
    exact ⟨((relevance_eq_some_iff ..).mp hrule).2.trans_le hle, fun _ => hi.le⟩

end Pass

theorem leads_mostRelevantFrom {source target : Domain} (seen rules : List Rule)
    (best : Option (Nat × (Nat × Nat))) (h : Leads source target seen best) :
    Leads source target (seen ++ rules)
      (mostRelevantFrom source target seen.length best rules) := by
  -- The rules still to come; what leads over those seen is the invariant of the pass.
  induction rules generalizing seen best with
  | nil => simpa [mostRelevantFrom] using h
  | cons rule rest ih =>
      have hlength : seen.length + 1 = (seen ++ [rule]).length := by simp
      unfold mostRelevantFrom
      rw [List.append_cons, hlength]
      apply ih
      cases hrule : rule.relevance source target with
      | none => exact leads_snoc_of_not_covers h ((relevance_eq_none_iff ..).mp hrule)
      | some new =>
          rcases best with _ | ⟨i, top⟩
          · refine leads_snoc_of_outranks hrule fun other hother hcovers => ?_
            simp [h other hother] at hcovers
          · by_cases houtranks : outranks new top = true
            · have hlt := (outranks_iff new top).mp houtranks
              simp only [houtranks, if_true]
              refine leads_snoc_of_outranks hrule fun other hother hcovers => ?_
              obtain ⟨j, hj⟩ := List.getElem?_of_mem hother
              exact (h.2 j other hj hcovers).1.trans_lt hlt
            · have hle : toLex new ≤ toLex top :=
                not_lt.mp fun hlt => houtranks ((outranks_iff new top).mpr hlt)
              simp only [houtranks]
              exact leads_snoc_of_not_outranks h hrule hle

theorem leads_pass (rules : List Rule) (source target : Domain) :
    Leads source target rules (mostRelevantFrom source target 0 none rules) :=
  leads_mostRelevantFrom [] rules none (by simp [Leads])

theorem mostRelevant_eq_none_iff (rules : List Rule) (source target : Domain) :
    mostRelevant rules source target = none ↔
      ∀ r ∈ rules, r.covers source target = false := by
  have hleads := leads_pass rules source target
  rw [mostRelevant, Option.map_eq_none_iff]
  constructor
  · intro hnone
    rw [hnone] at hleads
    exact hleads
  · intro hrules
    cases hbest : mostRelevantFrom source target 0 none rules with
    | none => rfl
    | some best =>
        rw [hbest] at hleads
        obtain ⟨⟨r, hr, hrelevance⟩, -⟩ := hleads
        have hcovers := ((relevance_eq_some_iff ..).mp hrelevance).1
        simp [hrules r (List.mem_of_getElem? hr)] at hcovers

theorem isMostRelevant_of_mostRelevant {rules : List Rule} {source target : Domain} {i : Nat}
    (h : mostRelevant rules source target = some i) : IsMostRelevant rules source target i := by
  have hleads := leads_pass rules source target
  obtain ⟨⟨j, top⟩, hbest, rfl⟩ := Option.map_eq_some_iff.mp h
  rw [hbest] at hleads
  obtain ⟨⟨r, hr, hrelevance⟩, hothers⟩ := hleads
  obtain ⟨hcovers, hrank⟩ := (relevance_eq_some_iff ..).mp hrelevance
  refine ⟨r, hr, hcovers, ?_⟩
  rw [hrank]
  exact hothers

theorem mostRelevant_eq_some_iff (rules : List Rule) (source target : Domain) (i : Nat) :
    mostRelevant rules source target = some i ↔ IsMostRelevant rules source target i := by
  refine ⟨isMostRelevant_of_mostRelevant, ?_⟩
  intro hi
  cases hbest : mostRelevant rules source target with
  | none =>
      obtain ⟨r, hr, hcovers, -⟩ := hi
      have hnot := (mostRelevant_eq_none_iff ..).mp hbest r (List.mem_of_getElem? hr)
      simp [hnot] at hcovers
  | some j => rw [(isMostRelevant_of_mostRelevant hbest).unique hi]

theorem mostRelevant_lt_length {rules : List Rule} {source target : Domain} {i : Nat}
    (h : mostRelevant rules source target = some i) : i < rules.length := by
  obtain ⟨r, hr, -⟩ := isMostRelevant_of_mostRelevant h
  exact (List.getElem?_eq_some_iff.mp hr).1

end NamespacePolicy.Proofs.RuleSelection
