/-!
Binary floating point numbers of 64 bits.  A finite number is a mantissa times a power of two, so
every operation can be carried out exactly on fractions and rounded once.
-/

namespace NamespacePolicy

/-- `num / den` rounded to the nearest number; a half goes to the even neighbour. -/
def roundedQuotient (num den : Nat) : Nat :=
  let whole := num / den
  let rest := 2 * (num % den)
  if rest < den then whole
  else if den < rest then whole + 1
  else if whole % 2 = 0 then whole else whole + 1

/-- A finite number is `mantissa * 2 ^ exponent`, with the largest mantissa below `2 ^ 53` and the
exponent between -1074 and 971. -/
inductive Binary64 where
  | finite (negative : Bool) (mantissa : Nat) (exponent : Int)
  | infinite (negative : Bool)
  | nan
deriving DecidableEq, Repr, Inhabited

namespace Binary64

def scaled (num den : Nat) (exponent : Int) : Nat × Nat :=
  match exponent with
  | .ofNat n => (num, den * Nat.pow 2 n)
  | .negSucc n => (num * Nat.pow 2 (n + 1), den)

/-- The exponent of the grid on which a fraction is rounded: its mantissa there has 53 bits, or
fewer where the exponent is the least. -/
def gridExponent (num den : Nat) : Int :=
  let guess : Int := num.log2 - den.log2 - 53
  let (n, d) := scaled num den guess
  let exponent := if n / d < Nat.pow 2 53 then guess else guess + 1
  if exponent < -1074 then -1074 else exponent

def ofFraction (negative : Bool) (num den : Nat) : Binary64 :=
  if num = 0 then finite negative 0 (-1074)
  else
    let exponent := gridExponent num den
    let (n, d) := scaled num den exponent
    let mantissa := roundedQuotient n d
    let (mantissa, exponent) :=
      if mantissa = Nat.pow 2 53 then (Nat.pow 2 52, exponent + 1) else (mantissa, exponent)
    if 971 < exponent then infinite negative else finite negative mantissa exponent

def ofNat (n : Nat) : Binary64 := ofFraction false n 1

/-- The number nearest to `digits * 10 ^ exponent`. -/
def ofDecimal (negative : Bool) (digits : Nat) (exponent : Int) : Binary64 :=
  let size := (Nat.toDigits 10 digits).length
  if digits = 0 ∨ exponent + size < -400 then finite negative 0 (-1074)
  else if 400 < exponent + size then infinite negative
  else
    match exponent with
    | .ofNat n => ofFraction negative (digits * Nat.pow 10 n) 1
    | .negSucc n => ofFraction negative digits (Nat.pow 10 (n + 1))

def fraction (mantissa : Nat) (exponent : Int) : Nat × Nat :=
  match exponent with
  | .ofNat n => (mantissa * Nat.pow 2 n, 1)
  | .negSucc n => (mantissa, Nat.pow 2 (n + 1))

def isInfinite : Binary64 → Bool
  | infinite _ => true
  | _ => false

def isZero : Binary64 → Bool
  | finite _ mantissa _ => mantissa == 0
  | _ => false

def neg : Binary64 → Binary64
  | finite negative mantissa exponent => finite (!negative) mantissa exponent
  | infinite negative => infinite (!negative)
  | nan => nan

/-- The product of a number and the number nearest to `10 ^ power`. -/
def timesPowerOfTen (x : Binary64) (power : Nat) : Binary64 :=
  match x, ofDecimal false 1 power with
  | finite negative m e, finite _ m' e' =>
      let (n, d) := fraction (m * m') (e + e')
      ofFraction negative n d
  | x, _ => x

/-- The quotient of a number and the number nearest to `10 ^ power`. -/
def overPowerOfTen (x : Binary64) (power : Nat) : Binary64 :=
  match x, ofDecimal false 1 power with
  | finite negative m e, finite _ m' e' =>
      let (n, d) := fraction m (e - e')
      ofFraction negative n (d * m')
  | x, _ => x

/-- The magnitude in thousandths, rounded; a half goes to the even neighbour. -/
def thousandths : Binary64 → Nat
  | finite _ mantissa exponent =>
      let (n, d) := fraction mantissa exponent
      roundedQuotient (n * 1000) d
  | _ => 0

end Binary64

end NamespacePolicy
