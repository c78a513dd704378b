import NamespacePolicy.Number.Binary64
import NamespacePolicy.Text.Position

/-!
What a TOML document says, with the place of every value.  Tables that are only mentioned on the way
to others have no place of their own.
-/

namespace NamespacePolicy.Toml

open Text

structure Key where
  text : String
  span : Span
deriving DecidableEq, Repr

inductive TableForm where
  /-- By its header, or as an element of an array of tables. -/
  | header
  /-- On the way to the table of a header. -/
  | implied
  /-- On the way to the value of a dotted key. -/
  | dotted
  /-- In braces. -/
  | inline
deriving DecidableEq, Repr

inductive Node where
  | string (span : Span) (text : String)
  | integer (span : Span) (value : Int)
  | floating (span : Span) (value : Binary64)
  | boolean (span : Span) (value : Bool)
  | date (span : Span)
  | array (span : Span) (items : List Node)
  /-- A table keeps its entries in the order in which their keys were first written. -/
  | table (span : Option Span) (form : TableForm) (entries : List (Key × Node))
  /-- An array of tables, each with a header of its own. -/
  | tables (span : Option Span) (items : List Node)
deriving Repr

abbrev Entries := List (Key × Node)

namespace Node

def span? : Node → Option Span
  | string span _ => some span
  | integer span _ => some span
  | floating span _ => some span
  | boolean span _ => some span
  | date span => some span
  | array span _ => some span
  | table span _ _ => span
  | tables span _ => span

end Node

namespace Entries

/-- Replaces the value of a key, or adds the key at the end. -/
def update (key : Key) (change : Option Node → Option Node) : Entries → Option Entries
  | [] => (change none).map fun value => [(key, value)]
  | (first, value) :: rest =>
      if first.text = key.text then (change (some value)).map fun value => (first, value) :: rest
      else (update key change rest).map ((first, value) :: ·)

def value? (entries : Entries) (name : String) : Option Node :=
  (entries.find? (·.1.text == name)).map (·.2)

def without (entries : Entries) (name : String) : Entries :=
  entries.filter (·.1.text ≠ name)

/-- Changes the entries of the table at the end of a path; tables that are missing on the way are
created in the given form.  The path may lead through the last element of an array of tables.
A path of a dotted key leads through no table that a header or braces define. -/
def atPath (form : TableForm) (change : TableForm → Entries → Option Entries) :
    List Key → TableForm → Entries → Option Entries
  | [], own, entries => change own entries
  | key :: path, _, entries =>
      update key (fun
        | none => (atPath form change path form []).map (Node.table none form)
        | some (.table span own inner) =>
            if own = .inline ∨ form = .dotted ∧ own = .header then none
            else (atPath form change path own inner).map (Node.table span own)
        | some (.tables span items) =>
            match items.reverse with
            | .table last own inner :: before =>
                (atPath form change path own inner).map fun inner =>
                  Node.tables span ((Node.table last own inner :: before).reverse)
            | _ => none
        | some _ => none) entries

/-- Adds a value under a dotted key, unless the key has one.  The table that gets the value is the
table itself or one that dotted keys made. -/
def insert (path : List Key) (key : Key) (value : Node) (own : TableForm) (entries : Entries) :
    Option Entries :=
  atPath .dotted (fun form inner =>
    if (form == .dotted) == path.isEmpty then none
    else if (value? inner key.text).isSome then none
    else some (inner ++ [(key, value)])) path own entries

end Entries

end NamespacePolicy.Toml
