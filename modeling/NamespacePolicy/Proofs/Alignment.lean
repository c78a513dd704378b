import Mathlib.Data.List.Count
import NamespacePolicy.Pattern.Wildcard

/-!
Wildcard patterns laid over names.  The table of costs says what one of the ways costs in which a
pattern can be laid over the components of a name, and every way costs the same: what it costs can
be counted from the pattern and the name.
-/

namespace NamespacePolicy.Proofs.Alignment

open Wildcard

/-- A way to lay a pattern over the components of a name, with its cost: one for each `?`, and one
and the number of components it takes, for each `*`. -/
inductive Lays : List WildcardComponent → List String → Nat → Prop
  | nil : Lays [] [] 0
  | literal {pattern : List WildcardComponent} {names : List String} {k : Nat} (name : String)
      (h : Lays pattern names k) : Lays (.literal name :: pattern) (name :: names) k
  | anyOne {pattern : List WildcardComponent} {names : List String} {k : Nat} (name : String)
      (h : Lays pattern names k) : Lays (.anyOne :: pattern) (name :: names) (k + 1)
  | anyMany {pattern : List WildcardComponent} {names : List String} {k : Nat}
      (taken : List String) (h : Lays pattern names k) :
      Lays (.anyMany :: pattern) (taken ++ names) (k + 1 + taken.length)

section Table

variable (component : WildcardComponent) (pattern : List WildcardComponent) (name : String)
  (names : List String)

/-- What stands in the table for a pattern and a name. -/
def least (pattern : List WildcardComponent) (names : List String) : Option Nat :=
  (costRow pattern names).headD none

theorem tail_costRow : (costRow (component :: pattern) names).tail = costRow pattern names := by
  induction names with
  | nil => rfl
  | cons name names ih =>
      change nextRow name pattern (costRow (component :: pattern) names).tail = _
      rw [ih, costRow]

theorem least_nil_nil : least [] [] = some 0 :=
  rfl

theorem least_nil_cons : least [] (name :: names) = none :=
  rfl

theorem least_literal_nil (text : String) : least (.literal text :: pattern) [] = none :=
  rfl

theorem least_literal_cons (text : String) :
    least (.literal text :: pattern) (name :: names) =
      if name = text then least pattern names else none := by
  simp only [least, costRow, nextRow, tail_costRow, List.headD_cons]

theorem least_anyOne_nil : least (.anyOne :: pattern) [] = none :=
  rfl

theorem least_anyOne_cons :
    least (.anyOne :: pattern) (name :: names) = (least pattern names).map (· + 1) := by
  simp only [least, costRow, nextRow, tail_costRow, List.headD_cons]

theorem least_anyMany_nil :
    least (.anyMany :: pattern) [] = (least pattern []).map (· + 1) :=
  rfl

theorem least_anyMany_cons :
    least (.anyMany :: pattern) (name :: names) =
      cheaper ((least pattern (name :: names)).map (· + 1))
        ((least (.anyMany :: pattern) names).map (· + 1)) := by
  simp only [least, costRow, nextRow, tail_costRow, List.headD_cons]

end Table

theorem eq_of_cheaper_eq_some {a b : Option Nat} {k : Nat} (h : cheaper a b = some k) :
    a = some k ∨ b = some k := by
  cases a with
  | none => exact .inr h
  | some a =>
      cases b with
      | none => exact .inl h
      | some b =>
          have hmin : min a b = k := Option.some.inj h
          rcases Nat.le_total a b with hle | hle
          · exact .inl (by rw [← hmin, Nat.min_eq_left hle])
          · exact .inr (by rw [← hmin, Nat.min_eq_right hle])

/-- One component more for the `*` that begins a pattern costs one more. -/
theorem Lays.extend {pattern : List WildcardComponent} {names : List String} {k : Nat}
    (h : Lays (.anyMany :: pattern) names k) (name : String) :
    Lays (.anyMany :: pattern) (name :: names) (k + 1) := by
  cases h with
  | anyMany taken h => exact .anyMany (name :: taken) h

theorem lays_of_least {pattern : List WildcardComponent} {names : List String} {k : Nat}
    (h : least pattern names = some k) : Lays pattern names k := by
  induction pattern generalizing names k with
  | nil =>
      cases names with
      | nil =>
          obtain rfl := Option.some.inj h
          exact .nil
      | cons name names => simp [least_nil_cons] at h
  | cons component pattern ih =>
      cases component with
      | literal text =>
          cases names with
          | nil => simp [least_literal_nil] at h
          | cons name names =>
              rw [least_literal_cons] at h
              obtain ⟨rfl, hrest⟩ := Option.ite_none_right_eq_some.mp h
              exact .literal name (ih hrest)
      | anyOne =>
          cases names with
          | nil => simp [least_anyOne_nil] at h
          | cons name names =>
              rw [least_anyOne_cons] at h
              obtain ⟨j, hj, rfl⟩ := Option.map_eq_some_iff.mp h
              exact .anyOne name (ih hj)
      | anyMany =>
          -- The `*` takes components one by one, so this is an induction over the name as well.
          induction names generalizing k with
          | nil =>
              rw [least_anyMany_nil] at h
              obtain ⟨j, hj, rfl⟩ := Option.map_eq_some_iff.mp h
              exact .anyMany [] (ih hj)
          | cons name names ihNames =>
              rw [least_anyMany_cons] at h
              rcases eq_of_cheaper_eq_some h with h | h
              · obtain ⟨j, hj, rfl⟩ := Option.map_eq_some_iff.mp h
                exact .anyMany [] (ih hj)
              · obtain ⟨j, hj, rfl⟩ := Option.map_eq_some_iff.mp h
                exact (ihNames hj).extend name

theorem exists_cheaper {a b : Option Nat} (h : (∃ k, a = some k) ∨ ∃ k, b = some k) :
    ∃ k, cheaper a b = some k := by
  cases a with
  | none => exact h.resolve_left (by simp)
  | some a => cases b <;> exact ⟨_, rfl⟩

theorem exists_map_succ {a : Option Nat} (h : ∃ k, a = some k) :
    ∃ k, a.map (· + 1) = some k := by
  obtain ⟨k, rfl⟩ := h
  exact ⟨k + 1, rfl⟩

theorem exists_least_anyMany {pattern : List WildcardComponent} {names : List String}
    (h : ∃ k, least pattern names = some k) (taken : List String) :
    ∃ k, least (.anyMany :: pattern) (taken ++ names) = some k := by
  induction taken with
  | nil =>
      cases names with
      | nil => exact exists_map_succ h
      | cons name names =>
          rw [List.nil_append, least_anyMany_cons]
          exact exists_cheaper (.inl (exists_map_succ h))
  | cons name taken ih =>
      rw [List.cons_append, least_anyMany_cons]
      exact exists_cheaper (.inr (exists_map_succ ih))

theorem exists_least_of_lays {pattern : List WildcardComponent} {names : List String} {k : Nat}
    (h : Lays pattern names k) : ∃ j, least pattern names = some j := by
  induction h with
  | nil => exact ⟨0, least_nil_nil⟩
  | literal name _ ih => rwa [least_literal_cons, if_pos rfl]
  | anyOne name _ ih =>
      rw [least_anyOne_cons]
      exact exists_map_succ ih
  | anyMany taken _ ih => exact exists_least_anyMany ih taken

section Costs

variable {pattern : List WildcardComponent} {names : List String} {k : Nat}

/-- Each component of the name is paid for, unless a literal takes it, and so is each `*`. -/
theorem Lays.cost_add_literals (h : Lays pattern names k) :
    k + pattern.countP WildcardComponent.isLiteral = names.length + pattern.count .anyMany := by
  induction h with
  | nil => rfl
  | literal name _ ih =>
      rw [List.countP_cons_of_pos rfl, List.count_cons_of_ne (by simp), List.length_cons]
      omega
  | anyOne name _ ih =>
      rw [List.countP_cons_of_neg (by decide), List.count_cons_of_ne (by simp), List.length_cons]
      omega
  | anyMany taken _ ih =>
      rw [List.countP_cons_of_neg (by decide), List.count_cons_self, List.length_append]
      omega

theorem Lays.cost_le (h : Lays pattern names k) : k ≤ names.length + pattern.length := by
  have hstars : pattern.count .anyMany ≤ pattern.length := List.count_le_length
  have hcost := h.cost_add_literals
  omega

theorem Lays.cost_pos (h : Lays pattern names k)
    (hpattern : pattern.all WildcardComponent.isLiteral = false) : 0 < k := by
  induction h with
  | nil => simp at hpattern
  | literal name _ ih =>
      apply ih
      simpa [WildcardComponent.isLiteral] using hpattern
  | anyOne name _ _ => exact Nat.succ_pos _
  | anyMany taken _ _ => omega

/-- The table finds a way if there is one, and then what it costs. -/
theorem least_eq_some_iff : least pattern names = some k ↔ Lays pattern names k := by
  constructor
  · exact lays_of_least
  · intro h
    obtain ⟨j, hj⟩ := exists_least_of_lays h
    have hcost := h.cost_add_literals
    have hcost' := (lays_of_least hj).cost_add_literals
    have hjk : j = k := by omega
    rw [hj, hjk]

end Costs

end NamespacePolicy.Proofs.Alignment
