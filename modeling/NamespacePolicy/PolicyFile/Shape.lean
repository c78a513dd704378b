import NamespacePolicy.Number.Decimal
import NamespacePolicy.PolicyFile.Basic
import NamespacePolicy.Record
import NamespacePolicy.Toml.Node

/-!
Policy files as TOML documents.  Entries are looked at in the order of the document, so of several
faults the first one is reported; members that are missing come after all that are there.
-/

namespace NamespacePolicy

open Text Toml

structure ShapeError where
  span : Span
  cause : Mismatch
deriving DecidableEq, Repr

namespace PolicyFile

/-- A value with the place that stands for it in a report: its own, or else that of what leads to
it. -/
structure Placed where
  node : Node
  place : Span

abbrev Read (α : Type) := Placed → Except ShapeError α

def placed (node : Node) (outer : Span) : Placed := ⟨node, node.span?.getD outer⟩

def found : Node → Found
  | .string _ text => .string text
  | .integer _ value => .integer value
  | .floating _ value => .floating value.positionalText
  | .boolean _ value => .boolean value
  | .date _ => .map
  | .array _ _ => .sequence
  | .table _ _ _ => .map
  | .tables _ _ => .sequence

def unexpected (p : Placed) (expected : String) : ShapeError :=
  ⟨p.place, .wrongType (found p.node) expected⟩

def boolean : Read Bool
  | ⟨.boolean _ value, _⟩ => .ok value
  | p => .error (unexpected p "a boolean")

def natural : Read Nat
  | ⟨.integer _ (.ofNat value), _⟩ => .ok value
  | ⟨.integer _ value, place⟩ => .error ⟨place, .wrongValue (.integer value) "usize"⟩
  | p => .error (unexpected p "usize")

def string : Read String
  | ⟨.string _ text, _⟩ => .ok text
  | p => .error (unexpected p "a string")

/-- A string with its place.  A table without a place of its own is taken for such a pair, and its
first key is not the one that is expected. -/
def locatedText : Read LocatedText
  | ⟨.string span text, _⟩ => .ok ⟨text, span⟩
  | ⟨.table none _ ((key, _) :: _), _⟩ =>
      .error ⟨key.span, .wrongType (.string key.text) "a borrowed string"⟩
  | p => .error (unexpected p "a string")

def items? : Node → Option (List Node)
  | .array _ items => some items
  | .tables _ items => some items
  | _ => none

def list {α : Type} (read : Read α) : Read (List α) := fun p =>
  match items? p.node with
  | some items => items.mapM fun item => read (placed item p.place)
  | none => .error (unexpected p "a sequence")

abbrev Shape := NamespacePolicy.Shape Placed ShapeError

/-- The only key of a date, when a record is looked for in it. -/
def dateKey : String := "$__toml_private_datetime"

def checkEntries (s : Shape) : Entries → Except ShapeError (Members Placed)
  | [] => .ok []
  | (key, node) :: entries =>
      match s.field? key.text with
      | some field => do
          let value := placed node key.span
          field.check value
          return (key.text, value) :: (← checkEntries s entries)
      | none => .error ⟨key.span, .unknownField key.text s.names⟩

/-- The members of a record by name.  A record is a table, or an array that begins with the members
in order. -/
def members (s : Shape) (p : Placed) : Except ShapeError (Members Placed) :=
  match p.node with
  | .table _ _ entries => do
      let members ← checkEntries s entries
      match s.missing? members with
      | some missing => throw ⟨p.place, missing⟩
      | none => return members
  | .date _ => .error ⟨p.place, .unknownField dateKey s.names⟩
  | node =>
      match items? node with
      | some items => do
          let values := items.map fun item => placed item p.place
          let tooFew : ShapeError := ⟨p.place, s.tooFew items.length⟩
          return (← Shape.inOrder tooFew s.fields values).1
      | none => .error (unexpected p ("struct " ++ s.name))

def allowShape : Shape :=
  ⟨"AllowedDto",
    [.needed "from" locatedText, .needed "to" locatedText,
      .free "visible_types" (list string)]⟩

def allowEntry : Read AllowEntry := fun p => do
  let members ← members allowShape p
  return {
    source := ← members.get "from" locatedText (⟨p.place, ·⟩)
    target := ← members.get "to" locatedText (⟨p.place, ·⟩)
    visible := ← members.getD "visible_types" (list string) [] }

def ruleShape : Shape :=
  ⟨"RuleDto", [.needed "from" locatedText, .needed "to" locatedText]⟩

def ruleEntry : Read RuleEntry := fun p => do
  let members ← members ruleShape p
  return {
    source := ← members.get "from" locatedText (⟨p.place, ·⟩)
    target := ← members.get "to" locatedText (⟨p.place, ·⟩) }

def membersShape : Shape :=
  ⟨"VisibleMembersDto", [.needed "of_namespace" locatedText, .needed "types" (list string)]⟩

def membersEntry : Read MembersEntry := fun p => do
  let members ← members membersShape p
  return {
    namespaceName := ← members.get "of_namespace" locatedText (⟨p.place, ·⟩)
    types := ← members.get "types" (list string) (⟨p.place, ·⟩) }

def shape : Shape :=
  ⟨"ConfigDto",
    [.free "is_enabled" boolean,
      .free "child_can_depend_on_parent_implicitly" boolean,
      .free "parent_can_depend_on_child_implicitly" boolean,
      .free "max_issue_count" natural,
      .free "dependency_issue_severity" locatedText,
      .free "max_issue_count_severity" locatedText,
      .free "check_assembly_dependencies" boolean,
      .free "excluded_files" (list locatedText),
      .free "pattern_syntax" locatedText,
      .free "allowed" (list allowEntry),
      .free "disallowed" (list ruleEntry),
      .free "visible-members" (list membersEntry),
      .free "allowed-assembly" (list ruleEntry),
      .free "disallowed-assembly" (list ruleEntry)]⟩

def ofEntries (entries : Entries) : Except ShapeError PolicyFile := do
  let members ← members shape ⟨.table none .header entries, ⟨0, 0⟩⟩
  let setting := fun {α : Type} (name : String) (read : Read α) =>
    members.getD name (fun p => (read p).map some) none
  let listed := fun {α : Type} (name : String) (read : Read α) =>
    members.getD name (list read) []
  return {
    enabled := ← setting "is_enabled" boolean
    childMayUseParent := ← setting "child_can_depend_on_parent_implicitly" boolean
    parentMayUseChild := ← setting "parent_can_depend_on_child_implicitly" boolean
    maxIssues := ← setting "max_issue_count" natural
    dependencySeverity := ← setting "dependency_issue_severity" locatedText
    limitSeverity := ← setting "max_issue_count_severity" locatedText
    checkAssemblies := ← setting "check_assembly_dependencies" boolean
    excluded := ← listed "excluded_files" locatedText
    patternSyntax := ← setting "pattern_syntax" locatedText
    allowed := ← listed "allowed" allowEntry
    disallowed := ← listed "disallowed" ruleEntry
    visibleMembers := ← listed "visible-members" membersEntry
    allowedAssembly := ← listed "allowed-assembly" ruleEntry
    disallowedAssembly := ← listed "disallowed-assembly" ruleEntry }

end PolicyFile

end NamespacePolicy
