import NamespacePolicy.Regex.Reader
import NamespacePolicy.Regex.Space

/-!
The meaning of a written expression.  Flags are resolved from left to right: a directive lasts to
the end of the group it stands in, bars included, and a group gives its outside the flags back
that were in force before it.
-/

namespace NamespacePolicy.Regex

open Unicode

structure Flags where
  caseless : Bool := false
  multiline : Bool := false
  dotAll : Bool := false
  unicode : Bool := true
  crlf : Bool := false
deriving DecidableEq, Repr, Inhabited

def Flags.changed (flags : Flags) (change : FlagChange) : Flags :=
  { caseless := change.caseless.getD flags.caseless
    multiline := change.multiline.getD flags.multiline
    dotAll := change.dotAll.getD flags.dotAll
    unicode := change.unicode.getD flags.unicode
    crlf := change.crlf.getD flags.crlf }

/-- The set with the other case of its unaccented letters. -/
def withAsciiCases (cls : CharClass) : CharClass :=
  .union cls (.ofCodes ((List.range 26).flatMap fun i =>
    (if cls.hasCode (0x61 + i) then [0x41 + i] else []) ++
      (if cls.hasCode (0x41 + i) then [0x61 + i] else [])))

/-- Without Unicode a set may only hold the first 128 characters; all others look alike. -/
def checkAscii (flags : Flags) (cls : CharClass) : Option CharClass :=
  if !flags.unicode && cls.hasCode 0x80 then none else some cls

def Flags.spread (flags : Flags) (cls : CharClass) : CharClass :=
  if !flags.caseless then cls
  else if flags.unicode then cls.withCaseVariants
  else withAsciiCases cls

/-- Case variants are added before the set is negated. -/
def Flags.finish (flags : Flags) (negated : Bool) (cls : CharClass) : Option CharClass :=
  let cls := flags.spread cls
  checkAscii flags (if negated then .compl cls else cls)

def Literal.setCode? (flags : Flags) (c : Literal) : Option Nat :=
  if flags.unicode || c.char.toNat < 0x80 then some c.char.toNat else none

def NamedSet.members (flags : Flags) : NamedSet → CharClass
  | .digit => if flags.unicode then decimalDigit else .interval 0x30 0x39
  | .blank => if flags.unicode then Text.blank else .ranges [⟨0x9, 0xD, 1⟩, ⟨0x20, 0x20, 1⟩]
  | .word => if flags.unicode then Unicode.word else asciiWord

def SetTerm.members? (flags : Flags) : SetTerm → Option CharClass
  | .literal c => do
      let code ← c.setCode? flags
      return .interval code code
  | .range first last => do
      return .interval (← first.setCode? flags) (← last.setCode? flags)
  | .escape set negated =>
      let members := set.members flags
      checkAscii flags (if negated then .compl members else members)
  | .ascii members negated => flags.finish negated members
  | .property members negated => if flags.unicode then flags.finish negated members else none

def SetOp.apply : SetOp → CharClass → CharClass → CharClass
  | .intersection => .inter
  | .difference => .diff
  | .symmetricDifference => .symmDiff

def SetBody.members? (flags : Flags) : SetBody → Option CharClass
  | .empty => some .empty
  | .term t => t.members? flags
  | .bracket negated body => do flags.finish negated (← body.members? flags)
  | .union first rest => do return .union (← first.members? flags) (← rest.members? flags)
  | .op kind left right => do
      return kind.apply (flags.spread (← left.members? flags))
        (flags.spread (← right.members? flags))

def LookTerm.meaning (flags : Flags) : LookTerm → Look
  | .caret =>
      if !flags.multiline then .textStart else if flags.crlf then .lineStartCr else .lineStart
  | .dollar =>
      if !flags.multiline then .textEnd else if flags.crlf then .lineEndCr else .lineEnd
  | .textStart => .textStart
  | .textEnd => .textEnd
  | .word boundary => .word flags.unicode boundary

/-- The set of the dot.  Without Unicode it would cut characters into pieces. -/
def dotMembers? (flags : Flags) : Option CharClass :=
  if !flags.unicode then none
  else if flags.dotAll then some .any
  else if flags.crlf then some (.compl (.ofCodes [0xA, 0xD]))
  else some (.compl (.single '\n'))

/-- The set of a character that stands for itself.  A code above 127 in its two-digit form
denotes half a character without Unicode. -/
def Literal.members? (flags : Flags) (c : Literal) : Option CharClass :=
  if !flags.unicode && c.byte && 0x80 ≤ c.char.toNat then none
  else some (flags.spread (.single c.char))

/-- Copies of an expression.  One that covers no character is not copied more than once, and no
copies at all are the empty expression. -/
def repeated (e : CharExpr) (least : Nat) (most : Option Nat) : CharExpr :=
  let (least, most) := if e.coversNothing then (min least 1, some (min (most.getD 1) 1))
    else (least, most)
  if most = some 0 then .empty
  else if least = 1 ∧ most = some 1 then e
  else .times e least most

/-- The meaning of a written expression and the flags in force after it. -/
def Source.meaning? : Source → Flags → Option (CharExpr × Flags)
  | .empty, flags => some (.empty, flags)
  | .directive change, flags => some (.empty, flags.changed change)
  | .literal c, flags => do return (.one (← c.members? flags), flags)
  | .dot, flags => do return (.one (← dotMembers? flags), flags)
  | .look term, flags => some (.here (term.meaning flags), flags)
  | .set term, flags => do return (.one (← term.members? flags), flags)
  | .bracket negated body, flags => do
      return (.one (← flags.finish negated (← body.members? flags)), flags)
  | .group remembered change body, flags => do
      let (e, _) ← body.meaning? (flags.changed change)
      return (.group remembered e, flags)
  | .times body min max, flags => do
      let (e, flags) ← body.meaning? flags
      return (repeated e min max, flags)
  | .append first rest, flags => do
      let (a, flags) ← first.meaning? flags
      let (b, flags) ← rest.meaning? flags
      return (.append a b, flags)
  | .either first rest, flags => do
      let (a, flags) ← first.meaning? flags
      let (b, flags) ← rest.meaning? flags
      return (.either a b, flags)

def maxDepth : Nat := 250

/-- The expression that a text means, if it is well formed and neither nested too deeply nor too
large. -/
def compile? (text : List Char) : Option CharExpr := do
  let source ← Source.read? text
  if maxDepth < source.depth then none
  let (e, _) ← source.meaning? {}
  let layout := e.layout
  if maxSpace < layout.space .forward ∨ maxSpace < layout.space .backward then none
  return e

end NamespacePolicy.Regex
