import Mathlib.Data.Nat.Bitwise
import NamespacePolicy.Regex.Search

/-!
What the search for an expression finds.  Each part of an expression moves a set of positions to
those that its spans lead to; repetitions are moves made several times, or until no new position
is found.  So a text is found just when some span lies in it.
-/

namespace NamespacePolicy.Proofs.RegexSearch

open Regex Unicode

theorem testBit_bits (bs : List Bool) (i : Nat) :
    (bits bs).testBit i = true ↔ bs[i]? = some true := by
  induction bs generalizing i with
  | nil => simp [bits]
  | cons b rest ih =>
      cases i with
      | zero => cases b <;> simp [bits, Nat.testBit_zero, Nat.add_mod]
      | succ i =>
          have hhalf : ((if b then 1 else 0) + 2 * bits rest) / 2 = bits rest := by
            split <;> omega
          rw [bits, Nat.testBit_add_one, hhalf, ih, List.getElem?_cons_succ]

theorem testBit_setMask (text : List Char) (cls : CharClass) (i : Nat) :
    (setMask text cls).testBit i = true ↔ ∃ c, text[i]? = some c ∧ cls.has c = true := by
  rw [setMask, testBit_bits, List.getElem?_map, Option.map_eq_some_iff]

/-- The characters before and after each position, from the first to the last one. -/
theorem getElem?_neighbours (text : List Char) (i : Nat) :
    ((none :: text.map some).zip (text.map some ++ [none]))[i]? =
      if i ≤ text.length then some (around text i) else none := by
  split
  · next hi =>
    rw [List.getElem?_zip_eq_some, around]
    constructor
    · cases i with
      | zero => rfl
      | succ i => simp [List.getElem?_eq_getElem (Nat.lt_of_succ_le hi)]
    · rcases Nat.lt_or_eq_of_le hi with hlt | rfl
      · simp [List.getElem?_append, hlt]
      · simp
  · next hi =>
    apply List.getElem?_eq_none
    simp
    omega

theorem testBit_lookMask (text : List Char) (look : Look) (i : Nat) :
    (lookMask text look).testBit i = true ↔
      i ≤ text.length ∧ look.holds (around text i).1 (around text i).2 = true := by
  rw [lookMask, testBit_bits, List.getElem?_map, getElem?_neighbours]
  by_cases hi : i ≤ text.length <;> simp [hi]

/-- No position lies beyond the end. -/
def Within (length set : Nat) : Prop := ∀ i, set.testBit i = true → i ≤ length

section Positions

variable {length set : Nat}

theorem testBit_allPositions (length i : Nat) :
    (allPositions length).testBit i = true ↔ i ≤ length := by
  rw [allPositions, Nat.one_shiftLeft, Nat.testBit_two_pow_sub_one, decide_eq_true_eq,
    Nat.lt_succ_iff]

theorem Within.le_allPositions (h : Within length set) : set ≤ allPositions length := by
  have hlt : set < 2 ^ (length + 1) := by
    apply Nat.lt_pow_two_of_testBit
    intro i hi
    by_contra hbit
    have hle := h i (Bool.not_eq_false _ ▸ hbit)
    omega
  rw [allPositions, Nat.one_shiftLeft]
  omega

theorem Within.or {other : Nat} (h : Within length set) (hother : Within length other) :
    Within length (set ||| other) := by
  intro i hi
  rw [Nat.testBit_or, Bool.or_eq_true] at hi
  exact hi.elim (h i) (hother i)

end Positions

/-- So many steps of a relation. -/
def Steps (R : Nat → Nat → Prop) : Nat → Nat → Nat → Prop
  | 0, i, j => i = j
  | count + 1, i, k => ∃ j, R i j ∧ Steps R count j k

theorem steps_add {R : Nat → Nat → Prop} {a b i k : Nat} :
    Steps R (a + b) i k ↔ ∃ j, Steps R a i j ∧ Steps R b j k := by
  induction a generalizing i with
  | zero => simp [Steps]
  | succ a ih =>
      rw [Nat.succ_add]
      simp only [Steps, ih]
      constructor
      · rintro ⟨j, hij, l, hjl, hlk⟩
        exact ⟨l, ⟨j, hij, hjl⟩, hlk⟩
      · rintro ⟨l, ⟨j, hij, hjl⟩, hlk⟩
        exact ⟨j, hij, l, hjl, hlk⟩

/-- `step` moves a set of positions along `R`, which does not lead beyond the end. -/
structure Moves (length : Nat) (step : Nat → Nat) (R : Nat → Nat → Prop) : Prop where
  bound : ∀ i j, i ≤ length → R i j → j ≤ length
  reached : ∀ set, Within length set → ∀ j,
    (step set).testBit j = true ↔ ∃ i, set.testBit i = true ∧ R i j

section Moves

variable {length : Nat} {step next : Nat → Nat} {R S : Nat → Nat → Prop}

theorem Moves.within (h : Moves length step R) {set : Nat} (hset : Within length set) :
    Within length (step set) := by
  intro j hj
  obtain ⟨i, hi, hij⟩ := (h.reached set hset j).mp hj
  exact h.bound i j (hset i hi) hij

theorem Moves.congr (h : Moves length step R)
    (hiff : ∀ i j, i ≤ length → (R i j ↔ S i j)) : Moves length step S where
  bound i j hi hij := h.bound i j hi ((hiff i j hi).mpr hij)
  reached set hset j := by
    rw [h.reached set hset j]
    exact exists_congr fun i => and_congr_right fun hi => hiff i j (hset i hi)

theorem moves_id : Moves length id (· = ·) where
  bound := by
    rintro i j hi rfl
    exact hi
  reached := by
    intro set _ j
    simp

theorem Moves.comp (h : Moves length step R) (hnext : Moves length next S) :
    Moves length (fun set => next (step set)) fun i k => ∃ j, R i j ∧ S j k where
  bound := by
    rintro i k hi ⟨j, hij, hjk⟩
    exact hnext.bound j k (h.bound i j hi hij) hjk
  reached := by
    intro set hset k
    rw [hnext.reached _ (h.within hset)]
    simp only [h.reached set hset]
    constructor
    · rintro ⟨j, ⟨i, hi, hij⟩, hjk⟩
      exact ⟨i, hi, j, hij, hjk⟩
    · rintro ⟨i, hi, j, hij, hjk⟩
      exact ⟨j, ⟨i, hi, hij⟩, hjk⟩

theorem Moves.or (h : Moves length step R) (hnext : Moves length next S) :
    Moves length (fun set => step set ||| next set) fun i j => R i j ∨ S i j where
  bound := by
    rintro i j hi (hij | hij)
    · exact h.bound i j hi hij
    · exact hnext.bound i j hi hij
  reached := by
    intro set hset j
    rw [Nat.testBit_or, Bool.or_eq_true, h.reached set hset, hnext.reached set hset]
    simp only [and_or_left, exists_or]

theorem Moves.iterate (h : Moves length step R) (count : Nat) :
    Moves length (iterate step count) (Steps R count) := by
  induction count with
  | zero => exact moves_id
  | succ count ih => exact h.comp ih

theorem Moves.upTo (h : Moves length step R) (count : Nat) :
    Moves length (upTo step count) fun i j => ∃ m ≤ count, Steps R m i j := by
  induction count with
  | zero =>
      refine moves_id.congr fun i j _ => ?_
      simp [Steps]
  | succ count ih =>
      refine (moves_id.or (h.comp ih)).congr fun i k _ => ?_
      constructor
      · rintro (rfl | ⟨j, hij, m, hm, hjk⟩)
        · exact ⟨0, Nat.zero_le _, rfl⟩
        · exact ⟨m + 1, Nat.succ_le_succ hm, j, hij, hjk⟩
      · rintro ⟨m, hm, hik⟩
        cases m with
        | zero => exact .inl hik
        | succ m =>
            obtain ⟨j, hij, hjk⟩ := hik
            exact .inr ⟨j, hij, m, Nat.le_of_succ_le_succ hm, hjk⟩

/-- A set that a step does not leave is not left by any number of steps. -/
theorem Moves.steps_mem (h : Moves length step R) {set : Nat} (hset : Within length set)
    (hclosed : set ||| step set = set) {m i j : Nat} (hi : set.testBit i = true)
    (hij : Steps R m i j) : set.testBit j = true := by
  induction m generalizing i with
  | zero => exact hij ▸ hi
  | succ m ih =>
      obtain ⟨k, hik, hkj⟩ := hij
      refine ih ?_ hkj
      rw [← hclosed, Nat.testBit_or, Bool.or_eq_true]
      exact .inr ((h.reached set hset k).mpr ⟨i, hi, hik⟩)

theorem Moves.closure (h : Moves length step R) :
    Moves length (closure step (allPositions length)) fun i j => ∃ m, Steps R m i j where
  bound := by
    rintro i j hi ⟨m, hij⟩
    exact (h.iterate m).bound i j hi hij
  reached := by
    intro set hset j
    fun_induction Regex.closure step (allPositions length) set with
    | case1 set next hgrows ih =>
        have hnext : Within length next := hset.or (h.within hset)
        rw [ih hnext]
        constructor
        · rintro ⟨i, hi, m, hij⟩
          rcases Bool.or_eq_true _ _ ▸ Nat.testBit_or .. ▸ hi with hi | hi
          · exact ⟨i, hi, m, hij⟩
          · obtain ⟨k, hk, hki⟩ := (h.reached set hset i).mp hi
            exact ⟨k, hk, m + 1, i, hki, hij⟩
        · rintro ⟨i, hi, m, hij⟩
          refine ⟨i, ?_, m, hij⟩
          rw [Nat.testBit_or, hi, Bool.true_or]
    | case2 set next hstays =>
        -- Nothing lies beyond the end, so the search ended because nothing new was found.
        have hle : next ≤ allPositions length := (hset.or (h.within hset)).le_allPositions
        have hclosed : set ||| step set = set :=
          le_antisymm (not_lt.mp fun hlt => hstays ⟨hlt, hle⟩) Nat.left_le_or
        constructor
        · intro hj
          exact ⟨j, hj, 0, rfl⟩
        · rintro ⟨i, hi, m, hij⟩
          exact h.steps_mem hset hclosed hi hij

end Moves

/-- No repetition has to be made more often than it can be made. -/
def Ordered {σ τ : Type} : Expr σ τ → Prop
  | .empty | .one _ | .here _ => True
  | .append a b | .either a b => Ordered a ∧ Ordered b
  | .group _ a => Ordered a
  | .times a min max => Ordered a ∧ ∀ most, max = some most → min ≤ most

section Spans

variable {text : List Char} {a b : CharExpr} {i j k : Nat}

theorem span_bound {e : CharExpr} (h : Span text e i j) : i ≤ j ∧ j ≤ text.length := by
  induction h with
  | empty bound | here bound _ | timesDone bound => exact ⟨le_rfl, bound⟩
  | one at_i _ => exact ⟨Nat.le_succ _, (List.getElem?_eq_some_iff.mp at_i).1⟩
  | append _ _ ihLeft ihRight => exact ⟨ihLeft.1.trans ihRight.1, ihRight.2⟩
  | eitherLeft _ ih | eitherRight _ ih | group _ ih => exact ih
  | timesMore _ _ _ ihFirst ihRest => exact ⟨ihFirst.1.trans ihRest.1, ihRest.2⟩

theorem span_append_iff :
    Span text (.append a b) i k ↔ ∃ j, Span text a i j ∧ Span text b j k := by
  constructor
  · rintro (_ | _ | _ | ⟨left, right⟩)
    exact ⟨_, left, right⟩
  · rintro ⟨j, left, right⟩
    exact .append left right

theorem span_either_iff : Span text (.either a b) i j ↔ Span text a i j ∨ Span text b i j := by
  constructor
  · intro h
    cases h with
    | eitherLeft left => exact .inl left
    | eitherRight right => exact .inr right
  · rintro (left | right)
    · exact .eitherLeft left
    · exact .eitherRight right

theorem span_group_iff {remembered : Bool} :
    Span text (.group remembered a) i j ↔ Span text a i j := by
  constructor
  · rintro ⟨⟩
    assumption
  · exact .group

theorem span_empty_iff (hi : i ≤ text.length) : Span text .empty i j ↔ i = j := by
  constructor
  · rintro ⟨⟩
    rfl
  · rintro rfl
    exact .empty hi

theorem span_here_iff {look : Look} :
    Span text (.here look) i j ↔
      i = j ∧ i ≤ text.length ∧ look.holds (around text i).1 (around text i).2 = true := by
  constructor
  · intro h
    cases h with
    | here bound holds => exact ⟨rfl, bound, holds⟩
  · rintro ⟨rfl, bound, holds⟩
    exact .here bound holds

theorem span_one_iff {cls : CharClass} :
    Span text (.one cls) i j ↔ j = i + 1 ∧ ∃ c, text[i]? = some c ∧ cls.has c = true := by
  constructor
  · intro h
    cases h with
    | one at_i mem => exact ⟨rfl, _, at_i, mem⟩
  · rintro ⟨rfl, c, at_i, mem⟩
    exact .one at_i mem

/-- A repetition covers as many copies, one after the other, as its bounds allow. -/
theorem span_times_iff {min : Nat} {max : Option Nat} (hi : i ≤ text.length) :
    Span text (.times a min max) i k ↔
      ∃ m, min ≤ m ∧ (∀ most, max = some most → m ≤ most) ∧ Steps (Span text a) m i k := by
  constructor
  · intro h
    generalize he : Expr.times a min max = e at h
    induction h generalizing min max with
    | timesDone bound =>
        obtain ⟨rfl, rfl, rfl⟩ := Expr.times.inj he
        exact ⟨0, le_rfl, fun _ _ => Nat.zero_le _, rfl⟩
    | timesMore room first rest _ ihRest =>
        obtain ⟨rfl, rfl, rfl⟩ := Expr.times.inj he
        obtain ⟨m, hmin, hmax, hsteps⟩ := ihRest (span_bound first).2 rfl
        refine ⟨m + 1, by omega, ?_, _, first, hsteps⟩
        rintro most rfl
        have hroom : most ≠ 0 := fun hzero => room (congrArg some hzero)
        have hrest := hmax (most - 1) rfl
        omega
    | _ => simp at he
  · rintro ⟨m, hmin, hmax, hsteps⟩
    induction m generalizing i min max with
    | zero =>
        obtain rfl : i = k := hsteps
        obtain rfl : min = 0 := Nat.le_zero.mp hmin
        exact .timesDone hi
    | succ m ih =>
        obtain ⟨j, first, hrest⟩ := hsteps
        refine .timesMore ?_ first (ih (span_bound first).2 (by omega) ?_ hrest)
        · intro hnone
          exact absurd (hmax 0 hnone) (Nat.not_succ_le_zero m)
        · intro most hmost
          obtain ⟨bound, rfl, rfl⟩ := Option.map_eq_some_iff.mp hmost
          have hbound := hmax bound rfl
          omega

end Spans

section Search

variable (text : List Char)

/-- Where a part of an expression can end. -/
def endsOf (e : CharExpr) : Nat → Nat :=
  ends (allPositions text.length) (e.map (setMask text) (lookMask text))

theorem moves_one (cls : CharClass) :
    Moves text.length (endsOf text (.one cls)) (Span text (.one cls)) where
  bound _ _ _ h := (span_bound h).2
  reached := by
    intro set _ j
    change ((set &&& setMask text cls) <<< 1).testBit j = true ↔ _
    rw [Nat.testBit_shiftLeft, Bool.and_eq_true, decide_eq_true_eq, Nat.testBit_and,
      Bool.and_eq_true, testBit_setMask]
    simp only [span_one_iff]
    constructor
    · rintro ⟨hj, hi, hmem⟩
      exact ⟨j - 1, hi, by omega, hmem⟩
    · rintro ⟨i, hi, rfl, hmem⟩
      exact ⟨Nat.le_add_left 1 i, hi, hmem⟩

theorem moves_here (look : Look) :
    Moves text.length (endsOf text (.here look)) (Span text (.here look)) where
  bound _ _ _ h := (span_bound h).2
  reached := by
    intro set _ j
    change (set &&& lookMask text look).testBit j = true ↔ _
    rw [Nat.testBit_and, Bool.and_eq_true, testBit_lookMask]
    simp only [span_here_iff]
    constructor
    · rintro ⟨hj, hholds⟩
      exact ⟨j, hj, rfl, hholds⟩
    · rintro ⟨i, hi, rfl, hholds⟩
      exact ⟨hi, hholds⟩

theorem moves_times {a : CharExpr} (ha : Moves text.length (endsOf text a) (Span text a))
    {min : Nat} {max : Option Nat} (hmax : ∀ most, max = some most → min ≤ most) :
    Moves text.length (endsOf text (.times a min max)) (Span text (.times a min max)) := by
  have hleast := ha.iterate min
  cases max with
  | none =>
      refine (hleast.comp ha.closure).congr fun i k hi => ?_
      rw [span_times_iff hi]
      constructor
      · rintro ⟨j, hij, m, hjk⟩
        exact ⟨min + m, Nat.le_add_right min m, by simp, steps_add.mpr ⟨j, hij, hjk⟩⟩
      · rintro ⟨m, hmin, -, hik⟩
        obtain ⟨more, rfl⟩ := Nat.exists_eq_add_of_le hmin
        obtain ⟨j, hij, hjk⟩ := steps_add.mp hik
        exact ⟨j, hij, more, hjk⟩
  | some most =>
      have hmost : min ≤ most := hmax most rfl
      refine (hleast.comp (ha.upTo (most - min))).congr fun i k hi => ?_
      rw [span_times_iff hi]
      constructor
      · rintro ⟨j, hij, m, hm, hjk⟩
        refine ⟨min + m, Nat.le_add_right min m, ?_, steps_add.mpr ⟨j, hij, hjk⟩⟩
        rintro _ ⟨⟩
        omega
      · rintro ⟨m, hmin, hm, hik⟩
        obtain ⟨more, rfl⟩ := Nat.exists_eq_add_of_le hmin
        obtain ⟨j, hij, hjk⟩ := steps_add.mp hik
        have hmore := hm most rfl
        exact ⟨j, hij, more, by omega, hjk⟩

/-- An expression moves a set of positions along its spans. -/
theorem moves_endsOf {e : CharExpr} (he : Ordered e) :
    Moves text.length (endsOf text e) (Span text e) := by
  induction e with
  | empty => exact moves_id.congr fun i j hi => (span_empty_iff hi).symm
  | one cls => exact moves_one text cls
  | here look => exact moves_here text look
  | append a b iha ihb => exact ((iha he.1).comp (ihb he.2)).congr fun _ _ _ => span_append_iff.symm
  | either a b iha ihb => exact ((iha he.1).or (ihb he.2)).congr fun _ _ _ => span_either_iff.symm
  | group remembered a iha => exact (iha he).congr fun _ _ _ => span_group_iff.symm
  | times a min max iha => exact moves_times text (iha he.1) he.2

/-- The search finds a text just when some span of the expression lies in it. -/
theorem foundIn_iff {e : CharExpr} (he : Ordered e) :
    e.foundIn text = true ↔ ∃ i j, Span text e i j := by
  have hall : Within text.length (allPositions text.length) :=
    fun i => (testBit_allPositions text.length i).mp
  have hreached := (moves_endsOf text he).reached _ hall
  have hfound : e.foundIn text = true ↔ endsOf text e (allPositions text.length) ≠ 0 := bne_iff_ne
  rw [hfound]
  constructor
  · intro hne
    obtain ⟨j, hj⟩ := Nat.exists_testBit_of_ne_zero hne
    obtain ⟨i, -, hij⟩ := (hreached j).mp hj
    exact ⟨i, j, hij⟩
  · rintro ⟨i, j, hij⟩ hzero
    have hi := (testBit_allPositions text.length i).mpr
      ((span_bound hij).1.trans (span_bound hij).2)
    have hj := (hreached j).mpr ⟨i, hi, hij⟩
    rw [hzero, Nat.zero_testBit] at hj
    exact Bool.false_ne_true hj

end Search

end NamespacePolicy.Proofs.RegexSearch
