import NamespacePolicy.Regex.Extent
import NamespacePolicy.Regex.Layout

/-!
The space that an expression takes when it is written down as states which read a text byte by
byte.  Every copy of a repetition is written out, so a short expression can take a great deal of
space; an expression that takes too much of it is refused.
-/

namespace NamespacePolicy.Regex

open Unicode

def maxSpace : Nat := 0x100000

inductive Block where
  | states (extent : Extent)
  /-- Byte sequences that are read backward. -/
  | forms (forms : List (List Interval))
deriving DecidableEq, Repr

def Piece.block (direction : Direction) : Piece → Block
  | .text chars => .states ⟨Text.Utf8.size chars, 0⟩
  | .choice texts => .states (choiceExtent direction texts)
  | .set members =>
      if members.all fun interval => interval.last < 0x80 then .states ⟨2, 8 * members.length⟩
      else
        match direction with
        | .forward => .states (formsForward (members.flatMap byteForms))
        | .backward => .forms (members.flatMap byteForms)

def Block.write (before : Extent) : Block → Extent
  | states extent => before + extent
  | forms sequences => formsBackward sequences before

inductive Standing where
  | first
  | second
  | later

namespace Standing

def next : Standing → Standing
  | first => second
  | _ => later

/-- Once the second of several alternatives is written, so are the state that leads on to them and
the state after them; each alternative is listed. -/
def close (written : Extent) : Standing → Extent
  | first => written
  | second => written + .fork 2 + .state
  | later => written + ⟨0, 4⟩

end Standing

/-- A number of copies, or enough of them to take too much space. -/
def copies (write : Extent → Extent) : Nat → Extent → Extent
  | 0, before => before
  | count + 1, before =>
      if maxSpace < before.bytes then before else copies write count (write before)

/-- Copies beyond the least number are optional, and the last of endlessly many leads back to
itself. -/
def repetition (write : Extent → Extent) (before : Extent) :
    (least : Nat) → (most : Option Nat) → Extent
  | 0, none => write (before + .fork 2)
  | 0, some 1 => write (before + .fork 2) + .state
  | least, none => copies write least before + .fork 2
  | least, some most =>
      let required := if least = 0 then before + .state else copies write least before
      if most ≤ least then required
      else copies (fun before => write (before + .fork 2)) (most - least) (required + .state)

/-- Writes an expression after what is written already. -/
def Expr.write (direction : Direction) : Expr Block Look → Standing → Extent → Extent
  | .empty, standing, before => standing.close (before + .state)
  | .one block, standing, before => standing.close (block.write before)
  | .here _, standing, before => standing.close (before + .state)
  | .append a b, standing, before =>
      standing.close (match direction with
        | .forward => b.write direction .first (a.write direction .first before)
        | .backward => a.write direction .first (b.write direction .first before))
  | .either a b, standing, before =>
      b.write direction standing.next (standing.close (a.write direction .first before))
  | .group remembered a, standing, before =>
      standing.close (
        if remembered ∧ direction = .forward then
          a.write direction .first (before + .state) + .state
        else a.write direction .first before)
  | .times a least most, standing, before =>
      standing.close (repetition (a.write direction .first) before least most)

/-- Reading begins at an end of the text and nowhere else. -/
def Layout.anchored (direction : Direction) : Layout → Bool
  | .here look =>
      match direction with
      | .forward => look = .textStart
      | .backward => look = .textEnd
  | .append a b =>
      match direction with
      | .forward => anchored direction a || a.coversNothing && anchored direction b
      | .backward => anchored direction b || b.coversNothing && anchored direction a
  | .either a b => anchored direction a && anchored direction b
  | .group _ a => anchored direction a
  | .times a least _ => 0 < least && anchored direction a
  | _ => false

/-- The space of a whole expression.  A state in front of it skips bytes where reading may begin
anywhere, the expression is remembered like a group, and a state after it ends the search. -/
def Layout.space (direction : Direction) (e : Layout) : Nat :=
  let start : Extent := if anchored direction e then .state else ⟨3, 16⟩
  let whole : Expr Block Look := .group true (e.map (Piece.block direction) id)
  (whole.write direction .first start + .state).bytes

end NamespacePolicy.Regex
