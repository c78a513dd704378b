import NamespacePolicy.Regex.Source
import NamespacePolicy.Unicode.Query
import NamespacePolicy.Unicode.Recent

/-!
Reading a regular expression.  The reader refuses a text by giving no value: an ill-formed
expression is reported without saying what is wrong with it.
-/

namespace NamespacePolicy.Regex

open Unicode

/-- What is left to read, whether blanks and comments are skipped, and the group names taken. -/
structure Cursor where
  rest : List Char
  extended : Bool := false
  names : List (List Char) := []

abbrev Reader := StateT Cursor Option

namespace Reader

def refuse {α : Type} : Reader α := fun _ => none

def peek : Reader (Option Char) := do return (← get).rest.head?

def current : Reader Char := do
  match (← get).rest with
  | c :: _ => return c
  | [] => refuse

def bump : Reader Unit := modify fun s => { s with rest := s.rest.drop 1 }

/-- The text without the blanks and comments it starts with. -/
def dropSpace (inComment : Bool) : List Char → List Char
  | [] => []
  | c :: rest =>
      if inComment then dropSpace (c != '\n') rest
      else if c = '#' then dropSpace true rest
      else if Text.isBlank c then dropSpace false rest
      else c :: rest

def skipSpace : Reader Unit :=
  modify fun s => if s.extended then { s with rest := dropSpace false s.rest } else s

def bumpSpace : Reader Unit := do
  bump
  skipSpace

def take? (text : List Char) : Reader Bool := do
  let s ← get
  if text.isPrefixOf s.rest then
    set { s with rest := s.rest.drop text.length }
    return true
  else return false

/-- The first character that is not blank and does not open a comment.  The text of a comment
counts, and so does what follows a comment without text. -/
def firstMark (inComment : Bool) : List Char → Option Char
  | [] => none
  | c :: rest =>
      if Text.isBlank c then firstMark inComment rest
      else if !inComment && c = '#' then firstMark true rest
      else some c

/-- What comes after the current character where the extended flag is set: its first mark or, where
there is none, the very next character. -/
def peekMark : Reader (Option Char) := do
  let s ← get
  let rest := s.rest.drop 1
  return if s.extended then firstMark false rest <|> rest.head? else rest.head?

end Reader

open Reader

/-- Characters with a meaning of their own in a pattern. -/
def isMeta (c : Char) : Bool :=
  ['\\', '.', '+', '*', '?', '(', ')', '|', '[', ']', '\x7b', '\x7d', '^', '$', '#', '&', '-',
    '~'].contains c

/-- Characters that stand for themselves after a backslash. -/
def isEscapable (c : Char) : Bool :=
  isMeta c || (c.toNat < 128 && !c.isAlphanum && c != '<' && c != '>')

def charOfCode? (code : Nat) : Option Char :=
  if h : code.isValidChar then some (Char.ofNatAux code h) else none

def readHexDigits : Nat → List Char → Reader (List Char)
  | 0, done => return done.reverse
  | count + 1, done => do
      let c ← current
      if (hexDigit? c).isNone then refuse
      bumpSpace
      readHexDigits count (c :: done)

/-- Hexadecimal digits up to a closing brace. -/
def readBracedHex : Nat → List Char → Reader (List Char)
  | 0, _ => refuse
  | fuel + 1, done => do
      let c ← current
      if c = '\x7d' then
        bumpSpace
        return done.reverse
      if (hexDigit? c).isNone then refuse
      bumpSpace
      readBracedHex fuel (c :: done)

def readHex (kind : Char) : Reader Literal := do
  bumpSpace
  let c ← current
  if c = '\x7b' then
    bumpSpace
    let digits ← readBracedHex ((← get).rest.length + 1) []
    if digits.isEmpty then refuse
    match charOfCode? (hexValue digits) with
    | some c => return { char := c }
    | none => refuse
  else
    let count := if kind = 'x' then 2 else if kind = 'u' then 4 else 8
    let digits ← readHexDigits count []
    match charOfCode? (hexValue digits) with
    | some c => return { char := c, byte := kind = 'x' }
    | none => refuse

def readPropertyName : Nat → List Char → Reader (List Char)
  | 0, _ => refuse
  | fuel + 1, done => do
      let c ← current
      if c = '\x7d' then
        bump
        return done.reverse
      bumpSpace
      readPropertyName fuel (c :: done)

/-- Cuts a text at the first place where `sep` stands. -/
def cutAt (sep : List Char) : List Char → Option (List Char × List Char)
  | [] => none
  | c :: rest =>
      if sep.isPrefixOf (c :: rest) then some ([], (c :: rest).drop sep.length)
      else (cutAt sep rest).map fun (before, after) => (c :: before, after)

/-- A set of characters asked for by name, after `\p` or `\P`. -/
def readProperty (negated : Bool) : Reader SetTerm := do
  bumpSpace
  let c ← current
  let (found, negated) ←
    if c = '\x7b' then do
      bumpSpace
      let name ← readPropertyName ((← get).rest.length + 1) []
      pure <| match cutAt ['!', '='] name with
        | some (property, value) => (classValued property value, !negated)
        | none =>
            match cutAt [':'] name with
            | some (property, value) => (classValued property value, negated)
            | none =>
                match cutAt ['='] name with
                | some (property, value) => (classValued property value, negated)
                | none => (classNamed name, negated)
    else if c = '\\' then refuse
    else do
      bumpSpace
      pure (classNamed [c], negated)
  match found with
  | some members => return .property members negated
  | none => refuse

inductive Escape where
  | literal (c : Literal)
  | look (term : LookTerm)
  | set (term : SetTerm)

def isBoundaryLetter (c : Char) : Bool := c.isAlpha || c = '-'

def readBoundaryName : Nat → List Char → Reader (List Char)
  | 0, _ => refuse
  | fuel + 1, done => do
      match ← peek with
      | some c =>
          if isBoundaryLetter c then
            bumpSpace
            readBoundaryName fuel (c :: done)
          else return done.reverse
      | none => return done.reverse

def readBoundary : Reader Boundary := do
  if (← peek) ≠ some '\x7b' then return .edge
  let start ← get
  bumpSpace
  if !isBoundaryLetter (← current) then
    set start
    return .edge
  let name ← readBoundaryName ((← get).rest.length + 1) []
  if (← current) ≠ '\x7d' then refuse
  bump
  match String.ofList name with
  | "start" => return .start
  | "end" => return .finish
  | "start-half" => return .startHalf
  | "end-half" => return .finishHalf
  | _ => refuse

def readEscape : Reader Escape := do
  bump
  let c ← current
  if c = 'x' ∨ c = 'u' ∨ c = 'U' then return .literal (← readHex c)
  if c = 'p' ∨ c = 'P' then return .set (← readProperty (c = 'P'))
  bump
  if isEscapable c then return .literal { char := c }
  match c with
  | 'd' => return .set (.escape .digit false)
  | 'D' => return .set (.escape .digit true)
  | 's' => return .set (.escape .blank false)
  | 'S' => return .set (.escape .blank true)
  | 'w' => return .set (.escape .word false)
  | 'W' => return .set (.escape .word true)
  | 'a' => return .literal { char := '\x07' }
  | 'f' => return .literal { char := '\x0c' }
  | 't' => return .literal { char := '\t' }
  | 'n' => return .literal { char := '\n' }
  | 'r' => return .literal { char := '\r' }
  | 'v' => return .literal { char := '\x0b' }
  | 'A' => return .look .textStart
  | 'z' => return .look .textEnd
  | 'b' => return .look (.word (← readBoundary))
  | 'B' => return .look (.word .inside)
  | '<' => return .look (.word .start)
  | '>' => return .look (.word .finish)
  | _ => refuse

/-- The sets that are known by a name between colons. -/
def asciiSet? : String → Option CharClass
  | "alnum" => some (.ranges (CodeRange.table "30-39 41-5A 61-7A"))
  | "alpha" => some (.ranges (CodeRange.table "41-5A 61-7A"))
  | "ascii" => some (.ranges (CodeRange.table "0-7F"))
  | "blank" => some (.ranges (CodeRange.table "9 20"))
  | "cntrl" => some (.ranges (CodeRange.table "0-1F 7F"))
  | "digit" => some (.ranges (CodeRange.table "30-39"))
  | "graph" => some (.ranges (CodeRange.table "21-7E"))
  | "lower" => some (.ranges (CodeRange.table "61-7A"))
  | "print" => some (.ranges (CodeRange.table "20-7E"))
  | "punct" => some (.ranges (CodeRange.table "21-2F 3A-40 5B-60 7B-7E"))
  | "space" => some (.ranges (CodeRange.table "9-D 20"))
  | "upper" => some (.ranges (CodeRange.table "41-5A"))
  | "word" => some asciiWord
  | "xdigit" => some (.ranges (CodeRange.table "30-39 41-46 61-66"))
  | _ => none

/-- A set such as `[:alpha:]` or `[:^alpha:]`; anything else is left alone. -/
def readAsciiSet : Reader (Option SetTerm) := do
  let s ← get
  match s.rest with
  | '[' :: ':' :: rest =>
      let (negated, rest) := match rest with
        | '^' :: rest => (true, rest)
        | rest => (false, rest)
      let name := rest.takeWhile (· ≠ ':')
      match rest.drop name.length with
      | ':' :: ']' :: rest =>
          match asciiSet? (String.ofList name) with
          | some members =>
              set { s with rest }
              return some (.ascii members negated)
          | none => return none
      | _ => return none
  | _ => return none

def readSetItem : Reader Escape := do
  let c ← current
  if c = '\\' then readEscape
  else
    bump
    return .literal { char := c }

def readSetRange : Reader SetBody := do
  let item ← readSetItem
  skipSpace
  let c ← current
  let next ← peekMark
  if c ≠ '-' ∨ next = some ']' ∨ next = some '-' then
    match item with
    | .literal l => return .term (.literal l)
    | .set term => return .term term
    | .look _ => refuse
  else
    bumpSpace
    match item, ← readSetItem with
    | .literal first, .literal last =>
        if first.char.toNat ≤ last.char.toNat then return .term (.range first last) else refuse
    | _, _ => refuse

/-- Hyphens at the beginning of a set stand for themselves. -/
def readLeadingHyphens : Nat → List SetBody → Reader (List SetBody)
  | 0, _ => refuse
  | fuel + 1, done => do
      if (← current) = '-' then
        bumpSpace
        readLeadingHyphens fuel (.term (.literal { char := '-' }) :: done)
      else return done

/-- The opening of a set: whether it is negated, and the members that can only stand first. -/
def readSetOpening : Reader (Bool × List SetBody) := do
  bumpSpace
  let negated := (← current) = '^'
  if negated then bumpSpace
  let items ← readLeadingHyphens ((← get).rest.length + 1) []
  if items.isEmpty ∧ (← current) = ']' then
    bumpSpace
    let _ ← current
    return (negated, [.term (.literal { char := ']' })])
  else
    let _ ← current
    return (negated, items)

def joinSet (pending : Option (SetOp × SetBody)) (items : List SetBody) : SetBody :=
  let right := SetBody.ofItems items.reverse
  match pending with
  | none => right
  | some (kind, left) => .op kind left right

def readSet : Nat → Option (SetOp × SetBody) → List SetBody → Reader SetBody
  | 0, _, _ => refuse
  | fuel + 1, pending, items => do
      skipSpace
      let operator (kind : SetOp) : Reader SetBody := do
        bump
        bump
        readSet fuel (some (kind, joinSet pending items)) []
      let rest := (← get).rest
      match rest with
      | '[' :: _ =>
          match ← readAsciiSet with
          | some term => readSet fuel pending (.term term :: items)
          | none =>
              let (negated, first) ← readSetOpening
              let body ← readSet fuel none first
              readSet fuel pending (.bracket negated body :: items)
      | ']' :: _ =>
          bump
          return joinSet pending items
      | '&' :: '&' :: _ => operator .intersection
      | '-' :: '-' :: _ => operator .difference
      | '~' :: '~' :: _ => operator .symmetricDifference
      | _ :: _ => do
          let item ← readSetRange
          readSet fuel pending (item :: items)
      | [] => refuse

def readBracket : Reader Source := do
  let (negated, first) ← readSetOpening
  let body ← readSet ((← get).rest.length + 1) none first
  return .bracket negated body

inductive Flag where
  | caseless | multiline | dotAll | swapGreed | unicode | crlf | extended
deriving DecidableEq

def flag? : Char → Option Flag
  | 'i' => some .caseless
  | 'm' => some .multiline
  | 's' => some .dotAll
  | 'U' => some .swapGreed
  | 'u' => some .unicode
  | 'R' => some .crlf
  | 'x' => some .extended
  | _ => none

def FlagChange.with (change : FlagChange) (flag : Flag) (value : Bool) : FlagChange :=
  match flag with
  | .caseless => { change with caseless := some value }
  | .multiline => { change with multiline := some value }
  | .dotAll => { change with dotAll := some value }
  | .swapGreed => change
  | .unicode => { change with unicode := some value }
  | .crlf => { change with crlf := some value }
  | .extended => { change with extended := some value }

/-- The flags up to a colon or a closing parenthesis.  No flag is written twice, and the hyphen
that clears the flags after it is written at most once and never last. -/
def readFlags : Nat → (seen : List Flag) → (cleared dangling : Bool) → FlagChange →
    Reader (FlagChange × Bool)
  | 0, _, _, _, _ => refuse
  | fuel + 1, seen, cleared, dangling, change => do
      let c ← current
      if c = ':' ∨ c = ')' then
        if dangling then refuse
        return (change, seen.isEmpty && !cleared)
      if c = '-' then
        if cleared then refuse
        bump
        readFlags fuel seen true true change
      else
        match flag? c with
        | none => refuse
        | some flag =>
            if seen.contains flag then refuse
            bump
            readFlags fuel (flag :: seen) cleared false (change.with flag !cleared)

/-- A character of a group name; a name begins with a letter or an underscore. -/
def isNameChar (first : Bool) (c : Char) : Bool :=
  if first then c = '_' || Recent.alphabetic.has c
  else c = '_' || c = '.' || c = '[' || c = ']' || Recent.alphabetic.has c || Recent.numeric.has c

/-- The name of a group and the bracket that closes it; no two groups share a name. -/
def readGroupName : Reader Unit := do
  let s ← get
  let name := s.rest.takeWhile (· ≠ '>')
  match name, s.rest.drop name.length with
  | first :: others, '>' :: rest =>
      if isNameChar true first ∧ others.all (isNameChar false) ∧ ¬ s.names.contains name then
        set { s with rest, names := name :: s.names }
      else refuse
  | _, _ => refuse

inductive Opening where
  | directive (change : FlagChange)
  | group (remembered : Bool) (change : FlagChange)

def readOpening : Reader Opening := do
  bump
  skipSpace
  if (← take? ['?', '=']) || (← take? ['?', '!']) then refuse
  if (← take? ['?', '<', '=']) || (← take? ['?', '<', '!']) then refuse
  if (← take? ['?', 'P', '<']) then
    readGroupName
    return .group true {}
  if (← take? ['?', '<']) then
    readGroupName
    return .group true {}
  if (← take? ['?']) then
    let (change, none_written) ← readFlags ((← get).rest.length + 1) [] false false {}
    let closing ← current
    bump
    if closing = ')' then
      if none_written then refuse
      return .directive change
    else return .group false change
  return .group true {}

def readCount : Reader (Option Nat) := do
  modify fun s => { s with rest := s.rest.dropWhile Text.isBlank }
  let rec digits : Nat → List Char → Reader (List Char)
    | 0, done => return done.reverse
    | fuel + 1, done => do
        match ← peek with
        | some c =>
            if c.isDigit then
              bumpSpace
              digits fuel (c :: done)
            else return done.reverse
        | none => return done.reverse
  let written ← digits ((← get).rest.length + 1) []
  modify fun s => { s with rest := s.rest.dropWhile Text.isBlank }
  if written.isEmpty then return none
  let value := written.foldl (fun n c => n * 10 + (c.toNat - '0'.toNat)) 0
  if value < 0x100000000 then return some value else refuse

/-- A question mark after an operator asks for few copies instead of many. -/
def skipLazy : Reader Unit := do
  if (← peek) = some '?' then bump

def readCounts : Reader (Nat × Option Nat) := do
  bumpSpace
  let least ← readCount
  let c ← current
  let bounds ←
    if c = ',' then do
      bumpSpace
      match least with
      | none => refuse
      | some least =>
          if (← current) = '\x7d' then pure (least, none)
          else
            match ← readCount with
            | none => refuse
            | some most => pure (least, some most)
    else
      match least with
      | none => refuse
      | some count => pure (count, some count)
  if (← current) ≠ '\x7d' then refuse
  bumpSpace
  skipLazy
  match bounds with
  | (least, some most) => if least ≤ most then return bounds else refuse
  | (_, none) => return bounds

/-- The operand of a repetition is the last item read. -/
def repeatLast (items : List Source) (min : Nat) (max : Option Nat) : Reader (List Source) :=
  match items with
  | [] => refuse
  | .empty :: _ => refuse
  | .directive _ :: _ => refuse
  | item :: rest => return .times item min max :: rest

def readAlternatives : Nat → (done items : List Source) → Reader Source
  | 0, _, _ => refuse
  | fuel + 1, done, items => do
      skipSpace
      let simpleTimes (min : Nat) (max : Option Nat) : Reader Source := do
        let items ← repeatLast items min max
        bump
        skipLazy
        readAlternatives fuel done items
      match ← peek with
      | none | some ')' =>
          return .alternatives ((Source.sequence items.reverse :: done).reverse)
      | some '|' =>
          bump
          readAlternatives fuel (Source.sequence items.reverse :: done) []
      | some '(' =>
          let extended := (← get).extended
          match ← readOpening with
          | .directive change =>
              modify fun s => { s with extended := change.extended.getD s.extended }
              readAlternatives fuel done (.directive change :: items)
          | .group remembered change =>
              modify fun s => { s with extended := change.extended.getD extended }
              let body ← readAlternatives fuel [] []
              if (← peek) ≠ some ')' then refuse
              modify fun s => { s with extended }
              bump
              readAlternatives fuel done (.group remembered change body :: items)
      | some '[' =>
          let set ← readBracket
          readAlternatives fuel done (set :: items)
      | some '?' => simpleTimes 0 (some 1)
      | some '*' => simpleTimes 0 none
      | some '+' => simpleTimes 1 none
      | some '\x7b' =>
          if items.isEmpty then refuse
          let (min, max) ← readCounts
          let items ← repeatLast items min max
          readAlternatives fuel done items
      | some '\\' =>
          let item ← readEscape
          let source := match item with
            | .literal c => Source.literal c
            | .look term => .look term
            | .set term => .set term
          readAlternatives fuel done (source :: items)
      | some c =>
          bump
          let source := match c with
            | '.' => Source.dot
            | '^' => .look .caret
            | '$' => .look .dollar
            | c => .literal { char := c }
          readAlternatives fuel done (source :: items)

def Source.read? (text : List Char) : Option Source :=
  match (readAlternatives (text.length + 1) [] []).run { rest := text } with
  | some (source, cursor) => if cursor.rest.isEmpty then some source else none
  | none => none

end NamespacePolicy.Regex
