import NamespacePolicy.Unicode.Letter

/-!
Regular expressions over characters and positions.  `Span text e i j` says that the expression
`e` covers the characters of `text` from position `i` to position `j`; it is the meaning of an
expression, and a text is found when some span lies in it.
-/

namespace NamespacePolicy.Regex

open Unicode

inductive Boundary where
  | edge
  | inside
  | start
  | finish
  | startHalf
  | finishHalf
deriving DecidableEq, Repr

/-- A condition on the characters before and after a position. -/
inductive Look where
  | textStart
  | textEnd
  | lineStart
  | lineEnd
  /-- Lines may also end with a carriage return. -/
  | lineStartCr
  | lineEndCr
  | word (unicode : Bool) (boundary : Boundary)
deriving DecidableEq, Repr

def asciiWord : CharClass :=
  .ranges [⟨0x30, 0x39, 1⟩, ⟨0x41, 0x5A, 1⟩, ⟨0x5F, 0x5F, 1⟩, ⟨0x61, 0x7A, 1⟩]

def isWord (unicode : Bool) : Option Char → Bool
  | none => false
  | some c => (if unicode then Unicode.word else asciiWord).has c

def Boundary.holds (boundary : Boundary) (before after : Bool) : Bool :=
  match boundary with
  | edge => before != after
  | inside => before == after
  | start => !before && after
  | finish => before && !after
  | startHalf => !before
  | finishHalf => !after

def Look.holds (look : Look) (before after : Option Char) : Bool :=
  match look with
  | textStart => before.isNone
  | textEnd => after.isNone
  | lineStart => before.isNone || before == some '\n'
  | lineEnd => after.isNone || after == some '\n'
  | lineStartCr =>
      before.isNone || before == some '\n' || (before == some '\r' && after != some '\n')
  | lineEndCr =>
      after.isNone || after == some '\r' || (after == some '\n' && before != some '\r')
  | word unicode boundary => boundary.holds (isWord unicode before) (isWord unicode after)

/-- An expression whose steps take one character of a set from `σ` and whose conditions are
taken from `τ`. -/
inductive Expr (σ τ : Type) where
  | empty
  | one (set : σ)
  | here (look : τ)
  | append (a b : Expr σ τ)
  | either (a b : Expr σ τ)
  /-- A part in parentheses; what a remembered part covers can be asked for after a search. -/
  | group (remembered : Bool) (a : Expr σ τ)
  /-- At least `min` copies, and at most `max` where there is a bound. -/
  | times (a : Expr σ τ) (min : Nat) (max : Option Nat)
deriving DecidableEq, Repr, Inhabited

/-- An expression over sets of characters, as patterns mean it. -/
abbrev CharExpr := Expr CharClass Look

namespace Expr

/-- Another reading of the sets and conditions. -/
def map {σ τ σ' τ' : Type} (f : σ → σ') (g : τ → τ') : Expr σ τ → Expr σ' τ'
  | empty => empty
  | one set => one (f set)
  | here look => here (g look)
  | append a b => append (a.map f g) (b.map f g)
  | either a b => either (a.map f g) (b.map f g)
  | group remembered a => group remembered (a.map f g)
  | times a min max => times (a.map f g) min max

def coversNothing {σ τ : Type} : Expr σ τ → Bool
  | empty => true
  | one _ => false
  | here _ => true
  | append a b => a.coversNothing && b.coversNothing
  | either a b => a.coversNothing && b.coversNothing
  | group _ a => a.coversNothing
  | times a _ max => a.coversNothing || max == some 0

end Expr

def around (text : List Char) (i : Nat) : Option Char × Option Char :=
  (if i = 0 then none else text[i - 1]?, text[i]?)

/-- `Span text e i j`: the expression covers the characters from `i` to `j`. -/
inductive Span (text : List Char) : CharExpr → Nat → Nat → Prop where
  | empty {i} (bound : i ≤ text.length) : Span text .empty i i
  | one {cls i c} (at_i : text[i]? = some c) (mem : cls.has c = true) :
      Span text (.one cls) i (i + 1)
  | here {look i} (bound : i ≤ text.length)
      (holds : look.holds (around text i).1 (around text i).2 = true) : Span text (.here look) i i
  | append {a b i j k} (left : Span text a i j) (right : Span text b j k) :
      Span text (.append a b) i k
  | eitherLeft {a b i j} (left : Span text a i j) : Span text (.either a b) i j
  | eitherRight {a b i j} (right : Span text b i j) : Span text (.either a b) i j
  | group {remembered a i j} (inner : Span text a i j) : Span text (.group remembered a) i j
  | timesDone {a max i} (bound : i ≤ text.length) : Span text (.times a 0 max) i i
  | timesMore {a min max i j k} (room : max ≠ some 0) (first : Span text a i j)
      (rest : Span text (.times a (min - 1) (max.map (· - 1))) j k) :
      Span text (.times a min max) i k

end NamespacePolicy.Regex
