import NamespacePolicy.Text.Utf8

/-!
Reading a text from the front.  A reader stands at some byte offset; where the text is not what
it has to be, the offset is the fault.
-/

namespace NamespacePolicy.Toml

structure Cursor where
  rest : List Char
  offset : Nat
deriving Repr

/-- The byte offset at which a text is not well formed. -/
structure Fault where
  offset : Nat
deriving DecidableEq, Repr

abbrev Reader (α : Type) := StateT Cursor (Except Fault) α

namespace Reader

def fail {α : Type} : Reader α := fun cursor => .error ⟨cursor.offset⟩

def failAt {α : Type} (offset : Nat) : Reader α := fun _ => .error ⟨offset⟩

def offset : Reader Nat := fun cursor => .ok (cursor.offset, cursor)

def rest : Reader (List Char) := fun cursor => .ok (cursor.rest, cursor)

def peek? : Reader (Option Char) := fun cursor => .ok (cursor.rest.head?, cursor)

def skip (count : Nat) : Reader Unit := fun cursor =>
  .ok ((), ⟨cursor.rest.drop count, cursor.offset + Text.Utf8.size (cursor.rest.take count)⟩)

def tryEat (word : List Char) : Reader Bool := do
  if word.isPrefixOf (← rest) then
    skip word.length
    return true
  else return false

def eat (word : List Char) : Reader Unit := do
  unless ← tryEat word do fail

def takeWhile (test : Char → Bool) : Reader (List Char) := do
  let taken := (← rest).takeWhile test
  skip taken.length
  return taken

def isBlank (c : Char) : Bool := c == ' ' || c == '\t'

/-- Characters of comments and literal strings: all but controls. -/
def isVisible (c : Char) : Bool := c == '\t' || (0x20 ≤ c.toNat && c.toNat ≠ 0x7F)

def skipBlanks : Reader Unit := do
  let _ ← takeWhile isBlank

def tryNewline : Reader Bool := do
  if ← tryEat ['\n'] then return true else tryEat ['\r', '\n']

def skipComment : Reader Unit := do
  if (← peek?) = some '#' then
    let _ ← takeWhile isVisible

/-- Goes over blanks, comments and line ends.  Fails to go on at a comment or a carriage return that
no line end follows. -/
def trySkipTrivia : Reader Bool := do
  loop ((← rest).length + 1)
where
  loop : Nat → Reader Bool
    | 0 => pure true
    | fuel + 1 => do
        skipBlanks
        let next ← peek?
        skipComment
        if ← tryNewline then loop fuel
        else return next ≠ some '#' && next ≠ some '\r'

/-- Goes over the rest of a line, which may only hold a comment. -/
def endLine : Reader Unit := do
  skipBlanks
  skipComment
  unless ← tryNewline do
    unless (← rest).isEmpty do fail

end Reader

end NamespacePolicy.Toml
