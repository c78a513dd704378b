/-! Lines and columns of places that are given by their byte offset. -/

namespace NamespacePolicy.Text

/-- Some bytes of a text, from `start` up to but not including `stop`. -/
structure Span where
  start : Nat
  stop : Nat
deriving DecidableEq, Repr, Inhabited

/-- Lines and columns count from one, and columns count characters. -/
structure Position where
  line : Nat
  column : Nat
deriving DecidableEq, Repr, Inhabited

/-- The characters before a byte offset, unless the offset lies inside a character; an offset past
the end counts as the end. -/
def before? : List Char → Nat → Option (List Char)
  | _, 0 => some []
  | [], _ => some []
  | c :: rest, offset =>
      if c.utf8Size ≤ offset then (before? rest (offset - c.utf8Size)).map (c :: ·) else none

def Position.after (text : List Char) : Position :=
  { line := text.count '\n' + 1
    column := (text.reverse.takeWhile (· ≠ '\n')).length + 1 }

/-- The position of a byte offset.  An offset inside a character is not a place of its own, and
the end of the text stands for it. -/
def Position.ofOffset (text : List Char) (offset : Nat) : Position :=
  .after ((before? text offset).getD text)

end NamespacePolicy.Text
