import NamespacePolicy.Unicode.CharClass

/-!
The code points of a set as intervals.  They are listed in ascending order and no two of them touch,
so each set has one list.
-/

namespace NamespacePolicy.Unicode

structure Interval where
  first : Nat
  last : Nat
deriving DecidableEq, Repr

namespace Interval

/-- One more interval among intervals in ascending order: those that it overlaps or touches become
one with it. -/
def insert (new : Interval) : List Interval → List Interval
  | [] => [new]
  | next :: rest =>
      if new.last + 1 < next.first then new :: next :: rest
      else if next.last + 1 < new.first then next :: insert new rest
      else insert ⟨min new.first next.first, max new.last next.last⟩ rest

/-- The code points of any of some intervals. -/
def merge (intervals : List Interval) : List Interval := intervals.foldr insert []

/-- The code point lies in one of the intervals. -/
def covers (intervals : List Interval) (code : Nat) : Bool :=
  intervals.any fun interval => interval.first ≤ code && code ≤ interval.last

theorem covers_insert (new : Interval) (intervals : List Interval) (code : Nat) :
    covers (insert new intervals) code = covers (new :: intervals) code := by
  fun_induction insert new intervals with
  | case1 => rfl
  | case2 => rfl
  | case3 new next rest _ _ ih =>
      simp only [covers, List.any_cons] at ih ⊢
      rw [ih]
      exact Bool.or_left_comm _ _ _
  | case4 new next rest _ _ ih =>
      simp only [covers, List.any_cons] at ih ⊢
      rw [ih, ← Bool.or_assoc]
      congr 1
      grind

theorem covers_merge (intervals : List Interval) (code : Nat) :
    covers (merge intervals) code = covers intervals code := by
  induction intervals with
  | nil => rfl
  | cons new rest ih =>
      have step : merge (new :: rest) = insert new (merge rest) := rfl
      rw [step, covers_insert]
      simp only [covers, List.any_cons] at ih ⊢
      rw [ih]

/-- The code points from `start` on that lie in none of the intervals, which are in ascending order
and begin no earlier. -/
def gaps (start : Nat) : List Interval → List Interval
  | [] => if start ≤ 0x10FFFF then [⟨start, 0x10FFFF⟩] else []
  | next :: rest =>
      if start < next.first then ⟨start, next.first - 1⟩ :: gaps (next.last + 1) rest
      else gaps (next.last + 1) rest

end Interval

def CodeRange.intervals (range : CodeRange) : List Interval :=
  if range.step = 1 then [⟨range.first, range.last⟩]
  else range.codes.map fun code => ⟨code, code⟩

def CharClass.intervals : CharClass → List Interval
  | ranges rs => Interval.merge (rs.flatMap CodeRange.intervals)
  | union a b => Interval.merge (a.intervals ++ b.intervals)
  | inter a b =>
      Interval.gaps 0 (Interval.merge (Interval.gaps 0 a.intervals ++ Interval.gaps 0 b.intervals))
  | compl a => Interval.gaps 0 a.intervals

end NamespacePolicy.Unicode
