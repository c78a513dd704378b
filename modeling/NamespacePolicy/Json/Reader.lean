import NamespacePolicy.Json.Basic
import NamespacePolicy.Unicode.CharClass

/-!
Reading JSON texts.  Reading never fails: a text that is not well formed is read up to the place
where it goes wrong.
-/

namespace NamespacePolicy.Json

def isSpace (c : Char) : Bool := c == ' ' || c == '\n' || c == '\t' || c == '\r'

def skipSpace (text : List Char) : List Char := text.dropWhile isSpace

/-- A part of a string as it is written: a character, or a code of sixteen bits. -/
inductive StringPart where
  | char (c : Char)
  | code (value : Nat)
deriving DecidableEq, Repr

/-- The character that a letter after a backslash stands for. -/
def shortEscape? : Char → Option Char
  | '"' => some '"'
  | '\\' => some '\\'
  | '/' => some '/'
  | 'b' => some '\x08'
  | 'f' => some '\x0c'
  | 'n' => some '\n'
  | 'r' => some '\r'
  | 't' => some '\t'
  | _ => none

def code? (digits : List Char) : Option Nat :=
  if digits.all fun c => (Unicode.hexDigit? c).isSome then some (Unicode.hexValue digits) else none

/-- The parts up to the closing quote, and what follows it. -/
def readParts? : List Char → Option (List StringPart × List Char)
  | [] => none
  | '"' :: rest => some ([], rest)
  | '\\' :: 'u' :: a :: b :: c :: d :: rest => do
      let code ← code? [a, b, c, d]
      let (parts, rest) ← readParts? rest
      return (.code code :: parts, rest)
  | '\\' :: e :: rest => do
      let c ← shortEscape? e
      let (parts, rest) ← readParts? rest
      return (.char c :: parts, rest)
  | c :: rest =>
      if c.toNat < 0x20 then none
      else do
        let (parts, rest) ← readParts? rest
        return (.char c :: parts, rest)

def isHighSurrogate (code : Nat) : Bool := 0xD800 ≤ code && code < 0xDC00

def isLowSurrogate (code : Nat) : Bool := 0xDC00 ≤ code && code < 0xE000

def pairedChar (high low : Nat) : Char :=
  Char.ofNat (0x10000 + (high - 0xD800) * 0x400 + (low - 0xDC00))

/-- The characters that the parts spell.  Two codes in a row may be the halves of a surrogate pair;
half a pair alone spells nothing. -/
def spelled? : List StringPart → Option (List Char)
  | [] => some []
  | .char c :: parts => (spelled? parts).map (c :: ·)
  | .code code :: parts =>
      if isHighSurrogate code then
        match parts with
        | .code low :: parts =>
            if isLowSurrogate low then (spelled? parts).map (pairedChar code low :: ·) else none
        | _ => none
      else if isLowSurrogate code then none
      else (spelled? parts).map (Char.ofNat code :: ·)

@[simp] theorem spelled?_map_char (text : List Char) :
    spelled? (text.map StringPart.char) = some text := by
  induction text with
  | nil => rfl
  | cons c rest ih => simp [spelled?, ih]

def readString (text : List Char) : Json × Option (List Char) :=
  match readParts? text with
  | some (parts, rest) => (string ((spelled? parts).map String.ofList), some rest)
  | none => (broken, none)

/-- Takes digits into a significand as long as it fits into 64 bits.  The second number counts the
digits that are left. -/
def takeDigits : (significand : Nat) → List Char → Nat × Nat
  | significand, [] => (significand, 0)
  | significand, c :: rest =>
      let next := significand * 10 + (c.toNat - '0'.toNat)
      if 0x10000000000000000 ≤ next then (significand, rest.length + 1) else takeDigits next rest

/-- The floating point number `significand * 10 ^ exponent`, computed from the significand rounded
first; each power of ten beyond the largest is taken off in a step of its own. -/
def scaleByTen : (fuel : Nat) → Binary64 → Int → Option Binary64
  | 0, x, _ => some x
  | fuel + 1, x, exponent =>
      if exponent.natAbs ≤ 308 then
        if 0 ≤ exponent then
          let y := x.timesPowerOfTen exponent.natAbs
          if y.isInfinite then none else some y
        else some (x.overPowerOfTen exponent.natAbs)
      else if x.isZero then some x
      else if 0 ≤ exponent then none
      else scaleByTen fuel (x.overPowerOfTen 308) (exponent + 308)

def floatingOf (negative : Bool) (significand : Nat) (exponent : Int) : JsonNumber :=
  match scaleByTen 4 (.ofNat significand) exponent with
  | none => .tooLarge
  | some x => .floating (if negative then x.neg else x)

def numberOf (negative : Bool) (whole : List Char) (decimals : Option (List Char))
    (exponent : Option Int) : JsonNumber :=
  let (significand, left) := takeDigits 0 whole
  if decimals.isNone && exponent.isNone && left = 0 then
    if !negative then .natural significand
    else if 0 < significand ∧ significand ≤ 0x8000000000000000 then .negative significand
    else floatingOf true significand 0
  else
    let places := decimals.getD []
    let (significand, dropped) := takeDigits significand places
    floatingOf negative significand
      ((left : Int) - ((places.length - dropped : Nat) : Int) + exponent.getD 0)

def isDigit (c : Char) : Bool := '0' ≤ c && c ≤ '9'

def digitsValue (digits : List Char) : Nat :=
  digits.foldl (fun value c => value * 10 + (c.toNat - '0'.toNat)) 0

/-- The digits before the point: a zero stands alone. -/
def readWhole? (text : List Char) : Option (List Char × List Char) :=
  match text.takeWhile isDigit, text.dropWhile isDigit with
  | [], _ => none
  | ['0'], rest => some (['0'], rest)
  | '0' :: _, _ => none
  | digits, rest => some (digits, rest)

def readDecimals? (text : List Char) : Option (Option (List Char) × List Char) :=
  match text with
  | '.' :: rest =>
      match rest.takeWhile isDigit with
      | [] => none
      | digits => some (some digits, rest.dropWhile isDigit)
  | _ => some (none, text)

def readExponent? (text : List Char) : Option (Option Int × List Char) :=
  match text with
  | mark :: rest =>
      if mark = 'e' ∨ mark = 'E' then
        let (negative, rest) := match rest with
          | '+' :: rest => (false, rest)
          | '-' :: rest => (true, rest)
          | rest => (false, rest)
        match rest.takeWhile isDigit with
        | [] => none
        | digits =>
            let value : Int := digitsValue digits
            some (some (if negative then -value else value), rest.dropWhile isDigit)
      else some (none, text)
  | [] => some (none, text)

def readNumber (negative : Bool) (text : List Char) : Json × Option (List Char) :=
  let parts := do
    let (whole, rest) ← readWhole? text
    let (decimals, rest) ← readDecimals? rest
    let (exponent, rest) ← readExponent? rest
    return (numberOf negative whole decimals exponent, rest)
  match parts with
  | some (n, rest) => (number n, some rest)
  | none => (broken, none)

/-- A word that stands for a value. -/
def readWord (word : List Char) (value : Json) (text : List Char) : Json × Option (List Char) :=
  if word.isPrefixOf text then (value, some (text.drop word.length)) else (broken, none)

mutual

def readValue : (fuel : Nat) → List Char → Json × Option (List Char)
  | 0, _ => (broken, none)
  | fuel + 1, text =>
      match skipSpace text with
      | '[' :: rest =>
          match skipSpace rest with
          | ']' :: rest => (array [], some rest)
          | _ =>
              let (items, left) := readItems fuel rest
              (array items, left)
      | '\x7b' :: rest =>
          match skipSpace rest with
          | '\x7d' :: rest => (object [], some rest)
          | _ =>
              let (members, left) := readMembers fuel rest
              (object members, left)
      | '"' :: rest => readString rest
      | '-' :: rest => readNumber true rest
      | c :: rest =>
          if isDigit c then readNumber false (c :: rest)
          else if c = 'n' then readWord "null".toList null (c :: rest)
          else if c = 't' then readWord "true".toList (boolean true) (c :: rest)
          else readWord "false".toList (boolean false) (c :: rest)
      | [] => (broken, none)

def readItems : (fuel : Nat) → List Char → List Json × Option (List Char)
  | 0, _ => ([broken], none)
  | fuel + 1, text =>
      let (item, left) := readValue fuel text
      match left with
      | none => ([item], none)
      | some rest =>
          match skipSpace rest with
          | ']' :: rest => ([item], some rest)
          | ',' :: rest =>
              let (items, left) := readItems fuel rest
              (item :: items, left)
          | _ => ([item, broken], none)

def readMembers : (fuel : Nat) → List Char → List (Json × Json) × Option (List Char)
  | 0, _ => ([(broken, broken)], none)
  | fuel + 1, text =>
      match readValue fuel text with
      | (string key, some rest) =>
          match skipSpace rest with
          | ':' :: rest =>
              let (value, left) := readValue fuel rest
              match left with
              | none => ([(string key, value)], none)
              | some rest =>
                  match skipSpace rest with
                  | '\x7d' :: rest => ([(string key, value)], some rest)
                  | ',' :: rest =>
                      let (members, left) := readMembers fuel rest
                      ((string key, value) :: members, left)
                  | _ => ([(string key, value), (broken, broken)], none)
          | _ => ([(string key, broken)], none)
      | (key, _) => ([(key, broken)], none)

end

/-- A text with one value, and whether the text ends after it. -/
structure Document where
  value : Json
  ended : Bool

def read (text : String) : Document :=
  let (value, left) := readValue (2 * text.length + 2) text.toList
  { value, ended := match left with
      | some rest => (skipSpace rest).isEmpty
      | none => false }

end NamespacePolicy.Json
