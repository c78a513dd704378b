import NamespacePolicy.Number.Binary64
import NamespacePolicy.Unicode.CharClass

/-!
Values of TOML that are written without quotes and brackets.  Such a value is read from the front of
a text and ends where it cannot go on; what follows it is left.
-/

namespace NamespacePolicy.Toml

inductive Scalar where
  | integer (value : Int)
  | floating (value : Binary64)
  | boolean (value : Bool)
  | date
deriving Repr

namespace Scalar

def isDigit (c : Char) : Bool := '0' ≤ c && c ≤ '9'

/-- One or more digits without the underscores between them.  An underscore stands between two
digits. -/
def readDigits (test : Char → Bool) : List Char → Option (List Char × List Char)
  | [] => none
  | [c] => if test c then some ([c], []) else none
  | c :: d :: rest =>
      if !test c then none
      else if d = '_' then (readDigits test rest).map fun (digits, left) => (c :: digits, left)
      else if test d then
        (readDigits test (d :: rest)).map fun (digits, left) => (c :: digits, left)
      else some ([c], d :: rest)

def value (base : Nat) (digits : List Char) : Nat :=
  digits.foldl (fun n c => n * base + (Unicode.hexDigit? c).getD 0) 0

def readSign (text : List Char) : Bool × List Char :=
  match text with
  | '+' :: rest => (false, rest)
  | '-' :: rest => (true, rest)
  | rest => (false, rest)

/-- Decimal digits; a zero does not begin a longer number. -/
def readWhole (text : List Char) : Option (List Char × List Char) :=
  match text with
  | '0' :: rest => some (['0'], rest)
  | _ => readDigits isDigit text

def inRange (n : Int) : Option Int :=
  if -0x8000000000000000 ≤ n ∧ n < 0x8000000000000000 then some n else none

def readBased (base : Nat) (text : List Char) : Option (Scalar × List Char) := do
  let (digits, rest) ← readDigits (fun c => match Unicode.hexDigit? c with
    | some d => d < base
    | none => false) text
  return (.integer (← inRange (value base digits)), rest)

def readInteger (text : List Char) : Option (Scalar × List Char) :=
  match text with
  | '0' :: 'x' :: digits => readBased 16 digits
  | '0' :: 'o' :: digits => readBased 8 digits
  | '0' :: 'b' :: digits => readBased 2 digits
  | _ => do
      let (negative, rest) := readSign text
      let (digits, rest) ← readWhole rest
      let n : Int := value 10 digits
      return (.integer (← inRange (if negative then -n else n)), rest)

def isMark (c : Char) : Bool := c == 'e' || c == 'E'

def readExponent (text : List Char) : Option (Int × List Char) :=
  match text with
  | c :: rest =>
      if isMark c then do
        let (negative, rest) := readSign rest
        let (digits, rest) ← readDigits isDigit rest
        let n : Int := value 10 digits
        return (if negative then -n else n, rest)
      else some (0, text)
  | [] => some (0, [])

def readDecimals (text : List Char) : Option (List Char × List Char) :=
  match text with
  | '.' :: rest => readDigits isDigit rest
  | _ => some ([], text)

/-- A number that has decimals or an exponent.  One that is too large is refused, but for a negative
one. -/
def readFloating (text : List Char) : Option (Scalar × List Char) := do
  let (negative, rest) := readSign text
  let (whole, rest) ← readWhole rest
  let (decimals, rest) ← readDecimals rest
  let (exponent, rest) ← readExponent rest
  let x := Binary64.ofDecimal negative (value 10 (whole ++ decimals)) (exponent - decimals.length)
  if x = .infinite false then none else return (.floating x, rest)

def isFloating (text : List Char) : Bool :=
  match (readWhole (readSign text).2).bind fun (_, rest) => rest.head? with
  | some c => c == '.' || isMark c
  | none => false

/-- What follows a word, if the text begins with it. -/
def after? (word text : List Char) : Option (List Char) :=
  if word.isPrefixOf text then some (text.drop word.length) else none

def readNamed (text : List Char) : Option (Scalar × List Char) :=
  let (negative, rest) := readSign text
  ((after? "inf".toList rest).map ((.floating (.infinite negative), ·))) <|>
    (after? "nan".toList rest).map ((.floating .nan, ·))

/-- The number that two digits write, if it lies between two others. -/
def readTwo (least most : Nat) : List Char → Option (Nat × List Char)
  | a :: b :: rest =>
      let n := value 10 [a, b]
      if isDigit a && isDigit b && least ≤ n && n ≤ most then some (n, rest) else none
  | _ => none

def isLeapYear (year : Nat) : Bool := year % 4 == 0 && (year % 100 != 0 || year % 400 == 0)

def daysIn (year month : Nat) : Nat :=
  if month = 2 then (if isLeapYear year then 29 else 28)
  else if month = 4 ∨ month = 6 ∨ month = 9 ∨ month = 11 then 30
  else 31

def readYear (text : List Char) : Option (Nat × List Char) := do
  let (century, rest) ← readTwo 0 99 text
  let (year, rest) ← readTwo 0 99 rest
  return (century * 100 + year, ← after? ['-'] rest)

def readDay (year : Nat) (text : List Char) : Option (List Char) := do
  let (month, rest) ← readTwo 1 12 text
  let rest ← after? ['-'] rest
  return (← readTwo 1 (daysIn year month) rest).2

def readHour (text : List Char) : Option (List Char) := do
  after? [':'] (← readTwo 0 23 text).2

def readMinute (text : List Char) : Option (List Char) := do
  let rest ← after? [':'] (← readTwo 0 59 text).2
  let (_, rest) ← readTwo 0 60 rest
  match rest with
  | '.' :: decimals =>
      return if (decimals.takeWhile isDigit).isEmpty then rest else decimals.dropWhile isDigit
  | rest => return rest

/-- The distance from universal time, if there is one. -/
def readOffset (text : List Char) : Option (List Char) :=
  match text with
  | c :: rest =>
      if c = 'Z' ∨ c = 'z' then some rest
      else if c = '+' ∨ c = '-' then do return (← readTwo 0 59 (← readHour rest)).2
      else some text
  | [] => some []

/-- The time after a date, if there is one.  A space or a letter comes before it. -/
def readTimeOfDay (text : List Char) : Option (List Char) :=
  match text with
  | c :: rest =>
      if c = 'T' ∨ c = 't' ∨ c = ' ' then
        match readHour rest with
        | some rest => do readOffset (← readMinute rest)
        | none => some text
      else some text
  | [] => some []

/-- What begins with a year or an hour is a date or a time. -/
def readDate? (text : List Char) : Option (Option (List Char)) :=
  match readYear text with
  | some (year, rest) => some (do readTimeOfDay (← readDay year rest))
  | none => (readHour text).map readMinute

def read (text : List Char) : Option (Scalar × List Char) :=
  match text.head? with
  | some 't' => (after? "true".toList text).map ((.boolean true, ·))
  | some 'f' => (after? "false".toList text).map ((.boolean false, ·))
  | _ =>
      match readDate? text with
      | some rest => rest.map ((.date, ·))
      | none =>
          if isFloating text then readFloating text
          else readNamed text <|> readInteger text

end Scalar

end NamespacePolicy.Toml
