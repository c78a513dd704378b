import NamespacePolicy.Number.Binary64

/-!
Decimal texts of floating point numbers: the fewest digits that read back, and the two ways in
which they are written.
-/

namespace NamespacePolicy

/-- The number `0.d₁d₂…dₙ * 10 ^ point`; the last digit is not zero. -/
structure Decimal where
  digits : List Char
  point : Int
deriving DecidableEq, Repr

namespace Decimal

def ofNat (value : Nat) (point : Int) : Decimal :=
  ⟨((Nat.toDigits 10 value).reverse.dropWhile (· = '0')).reverse, point⟩

/-- The least `k` with `num / den < 10 ^ k`. -/
def magnitude (num den : Nat) : Int :=
  if den ≤ num then (Nat.toDigits 10 (num / den)).length
  else 1 - ((Nat.toDigits 10 ((den - 1) / num)).length : Int)

/-- The fraction `num / den` on the grid of the numbers with `places` digits and the given
magnitude. -/
def onGrid (num den : Nat) (magnitude : Int) (places : Nat) : Nat × Nat :=
  match (places : Int) - magnitude with
  | .ofNat n => (num * Nat.pow 10 n, den)
  | .negSucc n => (num, den * Nat.pow 10 (n + 1))

/-- The numbers that round to a given one, as multiples of a common unit: those between `low` and
`high`, with the ends if `closed`. -/
structure Neighbourhood where
  low : Nat
  value : Nat
  high : Nat
  closed : Bool
  unit : Nat × Nat

/-- What rounds to the finite number `mantissa * 2 ^ exponent`.  Below a power of two the next
number is only half as far as above it. -/
def neighbourhood (mantissa : Nat) (exponent : Int) : Neighbourhood :=
  let narrow := mantissa = Nat.pow 2 52 ∧ -1074 < exponent
  { low := if narrow then 4 * mantissa - 1 else 4 * mantissa - 2
    value := 4 * mantissa
    high := 4 * mantissa + 2
    closed := mantissa % 2 = 0
    unit := Binary64.fraction 1 (exponent - 2) }

/-- Whether the number `n` of the grid with `places` digits lies in the neighbourhood. -/
def Neighbourhood.has (hood : Neighbourhood) (magnitude : Int) (places n : Nat) : Bool :=
  let (low, d) := onGrid (hood.low * hood.unit.1) hood.unit.2 magnitude places
  let (high, _) := onGrid (hood.high * hood.unit.1) hood.unit.2 magnitude places
  if hood.closed then low ≤ n * d && n * d ≤ high else low < n * d && n * d < high

/-- On the grid with `places` digits, the number next to the value that reads back. -/
def Neighbourhood.nearest? (hood : Neighbourhood) (magnitude : Int) (places : Nat) : Option Nat :=
  let (value, d) := onGrid (hood.value * hood.unit.1) hood.unit.2 magnitude places
  let below := value / d
  let nearer := roundedQuotient value d
  let farther := if nearer = below then below + 1 else below
  if hood.has magnitude places nearer then some nearer
  else if hood.has magnitude places farther then some farther
  else none

/-- The fewest digits that read back as the positive number `mantissa * 2 ^ exponent`, and of those
the nearest. -/
def shortest (mantissa : Nat) (exponent : Int) : Decimal :=
  let hood := neighbourhood mantissa exponent
  let (num, den) := Binary64.fraction mantissa exponent
  let point := magnitude num den
  let hit := (List.range 17).findSome? fun i =>
    (hood.nearest? point (i + 1)).map fun n => (i + 1, n)
  match hit with
  | some (places, n) => ofNat n (if n = Nat.pow 10 places then point + 1 else point)
  | none => ofNat num point

def zeros (n : Int) : List Char := List.replicate n.toNat '0'

/-- The number without an exponent, with at least one digit on each side of the point. -/
def positional (d : Decimal) : List Char :=
  let size := d.digits.length
  if d.point ≤ 0 then "0.".toList ++ zeros (-d.point) ++ d.digits
  else if d.point < size then d.digits.take d.point.toNat ++ '.' :: d.digits.drop d.point.toNat
  else d.digits ++ zeros (d.point - size) ++ ".0".toList

def exponentText (exponent : Int) : List Char :=
  (if exponent < 0 then ['-'] else ['+']) ++ Nat.toDigits 10 exponent.natAbs

/-- The number with one digit before the point and an exponent. -/
def scientific (d : Decimal) : List Char :=
  let tail := 'e' :: exponentText (d.point - 1)
  match d.digits with
  | [] => '0' :: tail
  | [digit] => digit :: tail
  | digit :: rest => digit :: '.' :: rest ++ tail

/-- Positional where the number has at most 16 digits before the point and at most four zeros
after it, else scientific. -/
def compact (d : Decimal) : List Char :=
  if -5 < d.point ∧ d.point ≤ 16 then d.positional else d.scientific

end Decimal

namespace Binary64

def textWith (layout : Decimal → List Char) : Binary64 → String
  | nan => "NaN"
  | infinite negative => if negative then "-inf" else "inf"
  | finite negative mantissa exponent =>
      let digits := if mantissa = 0 then "0.0".toList else layout (.shortest mantissa exponent)
      String.ofList (if negative then '-' :: digits else digits)

def positionalText : Binary64 → String := textWith Decimal.positional

def compactText : Binary64 → String := textWith Decimal.compact

end Binary64

end NamespacePolicy
