import NamespacePolicy.Regex.Basic

/-!
Search for an expression in a text.  A set of positions is a natural number whose bit `i` stands
for the position `i`, so one step of an expression moves all positions at once; `ends` follows an
expression from a set of positions to the set of positions where it can end.
-/

namespace NamespacePolicy.Regex

open Unicode

/-- The number whose bits are listed, lowest first. -/
def bits : List Bool → Nat
  | [] => 0
  | b :: rest => (if b then 1 else 0) + 2 * bits rest

/-- The positions from which one character of the set can be taken. -/
def setMask (text : List Char) (cls : CharClass) : Nat :=
  bits (text.map cls.has)

/-- The positions, the end of the text included, at which the condition holds. -/
def lookMask (text : List Char) (look : Look) : Nat :=
  bits (((none :: text.map some).zip (text.map some ++ [none])).map fun (before, after) =>
    look.holds before after)

def allPositions (length : Nat) : Nat := 1 <<< (length + 1) - 1

/-- The smallest set above `seen`, among the positions of `all`, that `step` does not leave. -/
def closure (step : Nat → Nat) (all seen : Nat) : Nat :=
  let next := seen ||| step seen
  if seen < next ∧ next ≤ all then closure step all next else seen
termination_by all - seen

def iterate (step : Nat → Nat) : Nat → Nat → Nat
  | 0, from_ => from_
  | count + 1, from_ => iterate step count (step from_)

def upTo (step : Nat → Nat) : Nat → Nat → Nat
  | 0, from_ => from_
  | count + 1, from_ => from_ ||| upTo step count (step from_)

/-- The positions where the expression can end when it starts at one of `from_`. -/
def ends (all : Nat) : Expr Nat Nat → Nat → Nat
  | .empty, from_ => from_
  | .one set, from_ => (from_ &&& set) <<< 1
  | .here look, from_ => from_ &&& look
  | .append a b, from_ => ends all b (ends all a from_)
  | .either a b, from_ => ends all a from_ ||| ends all b from_
  | .group _ a, from_ => ends all a from_
  | .times a min max, from_ =>
      let least := iterate (ends all a) min from_
      match max with
      | none => closure (ends all a) all least
      | some max => upTo (ends all a) (max - min) least

/-- Some part of the text is covered by the expression. -/
def CharExpr.foundIn (e : CharExpr) (text : List Char) : Bool :=
  let all := allPositions text.length
  ends all (e.map (setMask text) (lookMask text)) all != 0

end NamespacePolicy.Regex
