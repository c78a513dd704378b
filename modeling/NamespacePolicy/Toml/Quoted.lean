import NamespacePolicy.Toml.Cursor
import NamespacePolicy.Unicode.CharClass

/-! Strings of TOML: in single or double quotes, on one line or on several. -/

namespace NamespacePolicy.Toml.Reader

def readCode (digits : Nat) : Reader Char := do
  let code := (← rest).take digits
  if code.length = digits ∧ code.all (fun c => (Unicode.hexDigit? c).isSome) then
    let value := Unicode.hexValue code
    if value.isValidChar then
      skip digits
      return Char.ofNat value
  fail

/-- The character that an escape stands for, after the backslash.  A fault lies behind the letter of
the escape. -/
def readEscape : Reader Char := do
  match ← peek? with
  | some 'b' => skip 1; return '\x08'
  | some 't' => skip 1; return '\t'
  | some 'n' => skip 1; return '\n'
  | some 'f' => skip 1; return '\x0c'
  | some 'r' => skip 1; return '\r'
  | some '"' => skip 1; return '"'
  | some '\\' => skip 1; return '\\'
  | some 'u' => skip 1; readCode 4
  | some 'U' => skip 1; readCode 8
  | _ => skip 1; fail

def readBasicChars : (fuel : Nat) → Reader (List Char)
  | 0 => fail
  | fuel + 1 => do
      match ← peek? with
      | some '"' => skip 1; return []
      | some '\\' =>
          skip 1
          let c ← readEscape
          return c :: (← readBasicChars fuel)
      | some c =>
          if isVisible c then
            skip 1
            return c :: (← readBasicChars fuel)
          else fail
      | none => fail

def readLiteralChars : Reader (List Char) := do
  let text ← takeWhile fun c => isVisible c && c != '\''
  eat ['\'']
  return text

/-- After a backslash: goes over blanks up to the end of the line and over all blanks and line
ends after it. -/
def tryFoldLine : Reader Bool := do
  match (← rest).dropWhile isBlank with
  | '\n' :: _ | '\r' :: '\n' :: _ =>
      loop ((← rest).length + 1)
      return true
  | _ => return false
where
  loop : Nat → Reader Unit
    | 0 => pure ()
    | fuel + 1 => do
        skipBlanks
        if ← tryNewline then loop fuel

/-- Three quotes close a string; up to two more before them belong to it. -/
def readQuotes (quote : Char) : Reader (List Char × Bool) := do
  let run := (← rest).takeWhile (· == quote)
  if run.length < 3 then
    skip run.length
    return (run, false)
  else
    let own := run.take (min 2 (run.length - 3))
    skip (own.length + 3)
    return (own, true)

def readLines (quote : Char) : (fuel : Nat) → Reader (List Char)
  | 0 => fail
  | fuel + 1 => do
      match ← peek? with
      | some c =>
          if c = quote then
            let (own, closed) ← readQuotes quote
            if closed then return own else return own ++ (← readLines quote fuel)
          else if ← tryNewline then return '\n' :: (← readLines quote fuel)
          else if c = '\\' ∧ quote = '"' then
            skip 1
            if ← tryFoldLine then readLines quote fuel
            else
              let c ← readEscape
              return c :: (← readLines quote fuel)
          else if isVisible c then
            skip 1
            return c :: (← readLines quote fuel)
          else fail
      | none => fail

/-- A string on several lines, after its opening quotes; a line end right there does not belong to
it. -/
def readLong (quote : Char) : Reader String := do
  let _ ← tryNewline
  let text ← readLines quote ((← rest).length + 1)
  return String.ofList text

def readShort : Reader String := do
  if ← tryEat ['"'] then return String.ofList (← readBasicChars ((← rest).length + 1))
  else
    eat ['\'']
    return String.ofList (← readLiteralChars)

def readString : Reader String := do
  if ← tryEat "\"\"\"".toList then readLong '"'
  else if ← tryEat "'''".toList then readLong '\''
  else readShort

end NamespacePolicy.Toml.Reader
