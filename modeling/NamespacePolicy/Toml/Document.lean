import NamespacePolicy.Toml.Value

/-!
TOML documents.  A document is a sequence of lines, each of which opens a table or gives a value of
the open table; an open table joins the others when the next one is opened.
-/

namespace NamespacePolicy.Toml

open Text

/-- The document as far as it was read. -/
structure Draft where
  /-- All tables but the open one. -/
  root : Entries := []
  /-- The path of the open table; that of the root is empty. -/
  path : List Key := []
  /-- Whether the open table is an element of an array. -/
  isElement : Bool := false
  span : Span := ⟨0, 0⟩
  entries : Entries := []

namespace Draft

def hull (items : List Node) : Option Span :=
  match items.head?.bind Node.span?, items.getLast?.bind Node.span? with
  | some first, some last => some ⟨first.start, last.stop⟩
  | _, _ => none

/-- All entries, when the open table has joined the others. -/
def close (d : Draft) : Option Entries :=
  match d.path.getLast? with
  | none => some d.entries
  | some key =>
      let table := Node.table (some d.span) .header d.entries
      Entries.atPath .implied (fun _ siblings =>
        siblings.update key fun
          | some (.tables _ items) =>
              if d.isElement then
                let items := items ++ [table]
                some (.tables (hull items) items)
              else none
          | some _ => none
          | none => some (if d.isElement then .tables (some d.span) [table] else table))
        d.path.dropLast .header d.root

/-- Opens the table of a header.  A table that was only implied so far keeps its entries and moves
behind its siblings. -/
def openTable (d : Draft) (path : List Key) (key : Key) (span : Span) : Option Draft := do
  let root ← d.close
  let parent ← Entries.atPath .implied (fun _ siblings =>
    match siblings.value? key.text with
    | none => some siblings
    | some (.table _ .implied _) => some (siblings.without key.text)
    | some _ => none) path .header root
  return { root := parent, path := path ++ [key], span, entries := kept path root }
where
  /-- The entries that an implied table has so far. -/
  kept : List Key → Entries → Entries
    | [], entries =>
        match entries.value? key.text with
        | some (.table _ _ inner) => inner
        | _ => []
    | first :: rest, entries =>
        match entries.value? first.text with
        | some (.table _ _ inner) => kept rest inner
        | some (.tables _ items) =>
            match items.getLast? with
            | some (.table _ _ inner) => kept rest inner
            | _ => []
        | _ => []

def openElement (d : Draft) (path : List Key) (key : Key) (span : Span) : Option Draft := do
  let root ← d.close
  let root ← Entries.atPath .implied (fun _ siblings =>
    siblings.update key fun
      | none => some (.tables none [])
      | some (.tables span items) => some (.tables span items)
      | some _ => none) path .header root
  return { root, path := path ++ [key], isElement := true, span }

/-- Gives a value of the open table, which reaches up to the value. -/
def give (d : Draft) (path : List Key) (key : Key) (value : Node) : Option Draft := do
  let stop := match value.span? with
    | some span => span.stop
    | none => d.span.stop
  let entries ← d.entries.insert path key value .header
  return { d with entries, span := ⟨d.span.start, stop⟩ }

end Draft

namespace Reader

def readHeader (d : Draft) : Reader Draft := do
  let start ← offset
  let isElement ← tryEat ['[', '[']
  unless isElement do skip 1
  let (path, key) ← readKey
  eat (if isElement then [']', ']'] else [']'])
  let span : Span := ⟨start, ← offset⟩
  endLine
  match if isElement then d.openElement path key span else d.openTable path key span with
  | some d => return d
  | none => failAt start

def readEntry (d : Draft) : Reader Draft := do
  let start ← offset
  let (path, key) ← readKey
  eat ['=']
  skipBlanks
  let value ← readValue (2 * (← rest).length + 2) 0
  endLine
  match d.give path key value with
  | some d => return d
  | none => failAt start

def readLinesOf : (fuel : Nat) → Draft → Reader Draft
  | 0, d => pure d
  | fuel + 1, d => do
      skipBlanks
      match ← peek? with
      | none => return d
      | some '[' => readLinesOf fuel (← readHeader d)
      | some '#' =>
          endLine
          readLinesOf fuel d
      | some c =>
          if ← tryNewline then readLinesOf fuel d
          else if c = '\r' then fail
          else readLinesOf fuel (← readEntry d)

/-- A document; a byte order mark before it does not belong to it. -/
def readDocument : Reader Entries := do
  let _ ← tryEat ['\uFEFF']
  let d ← readLinesOf ((← rest).length + 1) {}
  match d.close with
  | some entries => return entries
  | none => fail

end Reader

/-- The top level of a document, or where it is not well formed. -/
def parse (text : List Char) : Except Fault Entries :=
  (Reader.readDocument.run ⟨text, 0⟩).map (·.1)

end NamespacePolicy.Toml
