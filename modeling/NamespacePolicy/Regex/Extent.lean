import NamespacePolicy.Text.Utf8
import NamespacePolicy.Unicode.ByteForm

/-!
How many states the parts of an expression need that read sets of characters and texts byte by
byte, and how much those states list.
-/

namespace NamespacePolicy.Regex

open Unicode

inductive Direction where
  | forward
  | backward
deriving DecidableEq, Repr

/-- Some states and the bytes of what is listed at them. -/
structure Extent where
  states : Nat
  listed : Nat
deriving DecidableEq, Repr

namespace Extent

instance : Add Extent := ⟨fun a b => ⟨a.states + b.states, a.listed + b.listed⟩⟩

def total (extents : List Extent) : Extent := extents.foldr (· + ·) ⟨0, 0⟩

def bytes (extent : Extent) : Nat := 32 * extent.states + extent.listed

def state : Extent := ⟨1, 0⟩

def fork (ways : Nat) : Extent := ⟨1, 4 * ways⟩

/-- A state that leads on by the next byte.  A single way is not listed. -/
def step (ways : Nat) : Extent := ⟨1, if ways = 1 then 0 else 8 * ways⟩

end Extent

/-- What can follow each first entry of some lists; lists with the same first entry stand
together. -/
def followers (lists : List (List Interval)) : List (List (List Interval)) :=
  (lists.splitBy fun a b => a.head? == b.head?).map fun same => same.map List.tail

/-- All that can be left to read of some lists, as long as something is left. -/
def remainders : (depth : Nat) → List (List (List Interval)) → List (List (List Interval))
  | 0, _ => []
  | depth + 1, rests =>
      let rests := (rests.filter (· ≠ [[]])).eraseDups
      rests ++ remainders depth (rests.flatMap followers)

/-- Byte sequences read forward: all that can be left to read has one state, which lists the bytes
that can come next. -/
def formsForward (forms : List (List Interval)) : Extent :=
  .state + .total ((remainders 4 [forms]).eraseDups.map fun rest =>
    ⟨1, 8 * (followers rest).length⟩)

/-- A state that reads a byte of `bytes` and goes on to the state `after`. -/
structure Reading where
  after : Nat
  bytes : Interval
  number : Nat

/-- The states that read byte sequences backward.  Sequences with the same beginning share the states
of that beginning; a state is found again as long as no other one has taken its place. -/
structure ReadingTable where
  next : Nat
  places : Array (Option Reading)

namespace ReadingTable

def placeCount : Nat := 1000

/-- The place of a state: its numbers are mixed one after the other. -/
def placeOf (after : Nat) (bytes : Interval) : Nat :=
  ([after, bytes.first, bytes.last].foldl
    (fun mixed n => (mixed ^^^ n) * 0x100000001B3 % 0x10000000000000000) 0xCBF29CE484222325)
    % placeCount

/-- The number of the state that reads a byte and goes on to `after`, new where it is not found. -/
def enter (table : ReadingTable) (after : Nat) (bytes : Interval) : ReadingTable × Nat :=
  let place := placeOf after bytes
  let fresh :=
    ({ next := table.next + 1
       places := table.places.setIfInBounds place (some ⟨after, bytes, table.next⟩) }, table.next)
  match table.places[place]? with
  | some (some reading) =>
      if reading.after = after ∧ reading.bytes = bytes then (table, reading.number) else fresh
  | _ => fresh

def enterForm (last : Nat) (table : ReadingTable) (form : List Interval) : ReadingTable :=
  (form.foldl (fun (table, after) bytes => table.enter after bytes) (table, last)).1

end ReadingTable

/-- Byte sequences read backward, where `before` is written already: a state that leads on to each
sequence, a state where they all end, and the states of their bytes. -/
def formsBackward (forms : List (List Interval)) (before : Extent) : Extent :=
  let last := before.states + 1
  let table := forms.foldl (ReadingTable.enterForm last)
    { next := last + 1, places := Array.replicate ReadingTable.placeCount none }
  ⟨table.next, before.listed + 4 * forms.length⟩

/-- Some words that are read from a common state on: the state itself, and for each run of words
that are not at their end a state for their next bytes. -/
def wordsExtent : (depth : Nat) → List (List UInt8) → Extent
  | 0, _ => ⟨0, 0⟩
  | depth + 1, words =>
      let unfinished := words.dropWhile List.isEmpty
      if unfinished.isEmpty then ⟨0, 0⟩
      else
        let ends := (if unfinished.length < words.length then 1 else 0) + unfinished.count []
        let runs := (unfinished.splitBy fun a b => !a.isEmpty && !b.isEmpty).filter (· ≠ [[]])
        .fork (ends + runs.length) + .total (runs.map fun run =>
          let next := (run.filterMap List.head?).eraseDups
          .step next.length + .total (next.map fun b =>
            wordsExtent depth ((run.filter fun word => word.head? = some b).map List.tail)))

def choiceExtent (direction : Direction) (texts : List (List Char)) : Extent :=
  let words := texts.map fun text =>
    match direction with
    | .forward => Text.Utf8.encode text
    | .backward => (Text.Utf8.encode text).reverse
  .state + wordsExtent ((words.map List.length).foldr max 0) words

end NamespacePolicy.Regex
