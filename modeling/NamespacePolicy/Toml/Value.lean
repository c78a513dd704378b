import NamespacePolicy.Toml.Node
import NamespacePolicy.Toml.Quoted
import NamespacePolicy.Toml.Scalar

/-! Keys and values of TOML documents. -/

namespace NamespacePolicy.Toml.Reader

open Text

/-- Nothing is nested so deep, and no key has so many parts. -/
def maxDepth : Nat := 80

/-- Characters of keys without quotes. -/
def isBareKeyChar (c : Char) : Bool := c.isAlphanum || c == '-' || c == '_'

def readKeyPart : Reader Key := do
  let start ← offset
  let text ← match ← peek? with
    | some '"' => readShort
    | some '\'' => readShort
    | _ =>
        match ← takeWhile isBareKeyChar with
        | [] => fail
        | text => pure (String.ofList text)
  return ⟨text, start, ← offset⟩

/-- A dotted key; blanks may surround its parts. -/
def readKey : Reader (List Key × Key) := do
  let start ← offset
  skipBlanks
  let first ← readKeyPart
  skipBlanks
  let more ← loop ((← rest).length + 1)
  let parts := first :: more
  if maxDepth ≤ parts.length then failAt start
  return (parts.dropLast, parts.getLastD first)
where
  loop : Nat → Reader (List Key)
    | 0 => pure []
    | fuel + 1 => do
        if ← tryEat ['.'] then
          skipBlanks
          let part ← readKeyPart
          skipBlanks
          return part :: (← loop fuel)
        else return []

def readScalar : Reader Node := do
  let start ← offset
  let text ← rest
  match Scalar.read text with
  | none => fail
  | some (scalar, left) =>
      skip (text.length - left.length)
      let span : Span := ⟨start, ← offset⟩
      return match scalar with
        | .integer n => .integer span n
        | .floating x => .floating span x
        | .boolean b => .boolean span b
        | .date => .date span

mutual

def readValue : (fuel depth : Nat) → Reader Node
  | 0, _ => fail
  | fuel + 1, depth => do
      let start ← offset
      match ← peek? with
      | some '"' | some '\'' =>
          let text ← readString
          return .string ⟨start, ← offset⟩ text
      | some '[' =>
          if maxDepth ≤ depth + 1 then fail
          skip 1
          let items ← readItems fuel (depth + 1)
          return .array ⟨start, ← offset⟩ items
      | some '\x7b' =>
          if maxDepth ≤ depth + 1 then fail
          skip 1
          skipBlanks
          let inside ← offset
          let pairs ← readPairs fuel (depth + 1)
          let entries := pairs.foldlM (fun entries ((path, key), value) =>
            Entries.insert path key value .inline entries) []
          match entries with
          | none => failAt inside
          | some entries =>
              skipBlanks
              eat ['\x7d']
              return .table (some ⟨start, ← offset⟩) .inline entries
      | _ => readScalar

/-- The items of an array, with the closing bracket.  A fault between an item and what follows it
counts as a fault of the item. -/
def readItems : (fuel depth : Nat) → Reader (List Node)
  | 0, _ => fail
  | fuel + 1, depth => do
      unless ← trySkipTrivia do fail
      if ← tryEat [']'] then return []
      let start ← offset
      let item ← readValue fuel depth
      unless ← trySkipTrivia do failAt start
      if ← tryEat [','] then return item :: (← readItems fuel depth)
      eat [']']
      return [item]

def readPairs : (fuel depth : Nat) → Reader (List ((List Key × Key) × Node))
  | 0, _ => fail
  | fuel + 1, depth => do
      skipBlanks
      match ← peek? with
      | some c =>
          if isBareKeyChar c || c == '"' || c == '\'' then
            let key ← readKey
            eat ['=']
            skipBlanks
            let value ← readValue fuel depth
            skipBlanks
            match (← rest).head?, ((← rest).drop 1).dropWhile isBlank with
            | some ',', c :: _ =>
                if isBareKeyChar c || c == '"' || c == '\'' then
                  skip 1
                  return (key, value) :: (← readPairs fuel depth)
                else return [(key, value)]
            | _, _ => return [(key, value)]
          else return []
      | none => return []

end

end NamespacePolicy.Toml.Reader
