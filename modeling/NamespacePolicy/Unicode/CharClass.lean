import NamespacePolicy.Text.Split

/-!
Sets of characters.  A set is a small expression over listed code points, so that union,
intersection and complement mean exactly what membership says and no list has to be kept in
a normal form.
-/

namespace NamespacePolicy.Unicode

/-- The code points `first`, `first + step`, … up to `last`. -/
structure CodeRange where
  first : Nat
  last : Nat
  step : Nat
deriving DecidableEq, Repr, Inhabited

namespace CodeRange

def has (range : CodeRange) (code : Nat) : Bool :=
  range.first ≤ code && code ≤ range.last && (code - range.first) % range.step == 0

def codes (range : CodeRange) : List Nat :=
  (List.range ((range.last - range.first) / range.step + 1)).map
    fun i => range.first + i * range.step

end CodeRange

def hexDigit? (c : Char) : Option Nat :=
  if '0' ≤ c ∧ c ≤ '9' then some (c.toNat - '0'.toNat)
  else if 'a' ≤ c ∧ c ≤ 'f' then some (c.toNat - 'a'.toNat + 10)
  else if 'A' ≤ c ∧ c ≤ 'F' then some (c.toNat - 'A'.toNat + 10)
  else none

def hexValue (digits : List Char) : Nat :=
  digits.foldl (fun value c => value * 16 + (hexDigit? c).getD 0) 0

/-- One entry of a table: `41`, `41-5A`, or `100-12E/2` for every second code point. -/
def CodeRange.ofEntry (entry : List Char) : CodeRange :=
  let bounds := entry.takeWhile (· ≠ '/')
  let step := (entry.dropWhile (· ≠ '/')).drop 1
  let first := hexValue (bounds.takeWhile (· ≠ '-'))
  let last := (bounds.dropWhile (· ≠ '-')).drop 1
  { first
    last := if last.isEmpty then first else hexValue last
    step := if step.isEmpty then 1 else hexValue step }

/-- Reads a table whose entries are separated by spaces and line ends. -/
def CodeRange.table (text : String) : List CodeRange :=
  (Text.words text).map CodeRange.ofEntry

inductive CharClass where
  | ranges (rs : List CodeRange)
  | union (a b : CharClass)
  | inter (a b : CharClass)
  | compl (a : CharClass)
deriving DecidableEq, Repr, Inhabited

namespace CharClass

def hasCode : CharClass → Nat → Bool
  | ranges rs, code => rs.any (·.has code)
  | union a b, code => a.hasCode code || b.hasCode code
  | inter a b, code => a.hasCode code && b.hasCode code
  | compl a, code => !a.hasCode code

def has (cls : CharClass) (c : Char) : Bool :=
  cls.hasCode c.toNat

def empty : CharClass := ranges []

def any : CharClass := ranges [⟨0, 0x10FFFF, 1⟩]

def interval (first last : Nat) : CharClass := ranges [⟨first, last, 1⟩]

def single (c : Char) : CharClass := interval c.toNat c.toNat

def ofTable (text : String) : CharClass := ranges (CodeRange.table text)

def ofCodes (codes : List Nat) : CharClass := ranges (codes.map fun code => ⟨code, code, 1⟩)

def join : List CharClass → CharClass
  | [] => empty
  | cls :: rest => union cls (join rest)

def diff (a b : CharClass) : CharClass := inter a (compl b)

def symmDiff (a b : CharClass) : CharClass := union (diff a b) (diff b a)

@[simp] theorem has_union (a b : CharClass) (c : Char) :
    (union a b).has c = (a.has c || b.has c) := rfl

@[simp] theorem has_inter (a b : CharClass) (c : Char) :
    (inter a b).has c = (a.has c && b.has c) := rfl

@[simp] theorem has_compl (a : CharClass) (c : Char) : (compl a).has c = !a.has c := rfl

@[simp] theorem has_empty (c : Char) : empty.has c = false := rfl

theorem has_join (sets : List CharClass) (c : Char) : (join sets).has c = sets.any (·.has c) := by
  induction sets with
  | nil => rfl
  | cons cls rest ih => simp [join, ih]

end CharClass

end NamespacePolicy.Unicode
