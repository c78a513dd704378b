import NamespacePolicy.Dependency
import NamespacePolicy.Json.Shape

/-! Lists of the dependencies of a program, as an extractor writes them. -/

namespace NamespacePolicy

structure TypeEntry where
  fromNamespace : String
  fromType : String
  toNamespace : String
  toType : String
  file : Option String := none
  line : Option Nat := none
  column : Option Nat := none
deriving DecidableEq, Repr

structure AssemblyEntry where
  source : String
  target : String
deriving DecidableEq, Repr

structure DependencyList where
  types : List TypeEntry := []
  assemblies : List AssemblyEntry := []
deriving DecidableEq, Repr

namespace TypeEntry

def shape : Json.Shape :=
  ⟨"TypeEntry",
    [.needed "from_namespace" Json.text, .needed "from_type" Json.text,
      .needed "to_namespace" Json.text, .needed "to_type" Json.text,
      .free "file" (Json.optional Json.path), .free "line" (Json.optional Json.natural),
      .free "column" (Json.optional Json.natural)]⟩

def ofJson (j : Json) : Except JsonError TypeEntry := do
  let members ← Json.members shape true j
  return {
    fromNamespace := ← Json.member members "from_namespace" Json.text
    fromType := ← Json.member members "from_type" Json.text
    toNamespace := ← Json.member members "to_namespace" Json.text
    toType := ← Json.member members "to_type" Json.text
    file := ← members.getD "file" (Json.optional Json.path) none
    line := ← members.getD "line" (Json.optional Json.natural) none
    column := ← members.getD "column" (Json.optional Json.natural) none }

/-- The dependency with its place.  A place has a file; its line and column are 1 unless they are
given. -/
def occurrence (e : TypeEntry) : Occurrence :=
  { dependency := .ofSymbols e.fromNamespace e.fromType e.toNamespace e.toType
    location := e.file.map fun file => ⟨file, e.line.getD 1, e.column.getD 1⟩ }

end TypeEntry

namespace AssemblyEntry

def shape : Json.Shape :=
  ⟨"AssemblyEntry", [.needed "from" Json.text, .needed "to" Json.text]⟩

def ofJson (j : Json) : Except JsonError AssemblyEntry := do
  let members ← Json.members shape true j
  return {
    source := ← Json.member members "from" Json.text
    target := ← Json.member members "to" Json.text }

def dependency (e : AssemblyEntry) : AssemblyDependency := .ofSymbols e.source e.target

end AssemblyEntry

namespace DependencyList

def shape : Json.Shape :=
  ⟨"DependencyList",
    [.free "types" (Json.list TypeEntry.ofJson),
      .free "assemblies" (Json.list AssemblyEntry.ofJson)]⟩

def ofJson (j : Json) : Except JsonError DependencyList := do
  let members ← Json.members shape true j
  return {
    types := ← members.getD "types" (Json.list TypeEntry.ofJson) []
    assemblies := ← members.getD "assemblies" (Json.list AssemblyEntry.ofJson) [] }

def parse (text : String) : Except JsonError DependencyList := Json.parse ofJson text

def occurrences (l : DependencyList) : List Occurrence := l.types.map (·.occurrence)

def assemblyDependencies (l : DependencyList) : List AssemblyDependency :=
  l.assemblies.map (·.dependency)

end DependencyList

end NamespacePolicy
