import NamespacePolicy.Unicode.Interval

/-!
The characters of an interval as sequences of bytes.  An interval is cut so that in each sequence
every byte runs through an interval of its own, whatever the other bytes are.
-/

namespace NamespacePolicy.Unicode

/-- Codes written with the given number of digits to the base 64 after a leading number, as lists of
one interval for each place.  Each code from `first` to `last` lies in just one of the lists. -/
def digitForms : (digits : Nat) → (first last : Nat) → List (List Interval)
  | 0, first, last => [[⟨first, last⟩]]
  | digits + 1, first, last =>
      let block := 1 <<< (6 * (digits + 1))
      let (firstBlock, low) := (first / block, first % block)
      let (lastBlock, high) := (last / block, last % block)
      if firstBlock = lastBlock then
        (digitForms digits low high).map (⟨firstBlock, firstBlock⟩ :: ·)
      else
        let before :=
          if low = 0 then []
          else (digitForms digits low (block - 1)).map (⟨firstBlock, firstBlock⟩ :: ·)
        let after :=
          if high + 1 = block then []
          else (digitForms digits 0 high).map (⟨lastBlock, lastBlock⟩ :: ·)
        let start := if low = 0 then firstBlock else firstBlock + 1
        let stop := if high + 1 = block then lastBlock + 1 else lastBlock
        let whole :=
          if start < stop then
            [⟨start, stop - 1⟩ :: List.replicate (digits + 1) ⟨0, 63⟩]
          else []
        before ++ whole ++ after

/-- The bytes of digits: all but the first are marked as digits that continue a character. -/
def digitBytes : List Interval → List Interval
  | [] => []
  | lead :: digits => lead :: digits.map fun digit => ⟨0x80 + digit.first, 0x80 + digit.last⟩

/-- The byte sequences of the characters of an interval.  The first byte tells how many bytes
follow. -/
def byteForms (interval : Interval) : List (List Interval) :=
  [(0, 0, 0, 0x7F), (0xC0, 1, 0x80, 0x7FF), (0xE0, 2, 0x800, 0xFFFF),
    (0xF0, 3, 0x10000, 0x10FFFF)].flatMap fun (mark, digits, least, most) =>
      let first := max interval.first least
      let last := min interval.last most
      let lead := mark <<< (6 * digits)
      if first ≤ last then (digitForms digits (lead + first) (lead + last)).map digitBytes else []

end NamespacePolicy.Unicode
