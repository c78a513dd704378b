import NamespacePolicy.Domain

/-! What is checked: a type that uses another type, and an assembly that uses another assembly. -/

namespace NamespacePolicy

structure Location where
  file : String
  line : Nat
  column : Nat
deriving DecidableEq, Repr, Inhabited

structure TypeDependency where
  sourceNamespace : Domain
  sourceType : String
  targetNamespace : Domain
  targetType : String
deriving DecidableEq, Repr

structure AssemblyDependency where
  source : Domain
  target : Domain
deriving DecidableEq, Repr

/-- A dependency between types at the place where it was found, if that is known. -/
structure Occurrence where
  dependency : TypeDependency
  location : Option Location
deriving DecidableEq, Repr

namespace TypeDependency

/-- The dependency as a compiler names its parts. -/
def ofSymbols (sourceNamespace sourceType targetNamespace targetType : String) : TypeDependency :=
  { sourceNamespace := .ofSymbol sourceNamespace
    sourceType
    targetNamespace := .ofSymbol targetNamespace
    targetType }

def isInternal (d : TypeDependency) : Bool := d.sourceNamespace = d.targetNamespace

def text (d : TypeDependency) : String :=
  d.sourceNamespace.text ++ " (type: " ++ d.sourceType ++ ") -> " ++ d.targetNamespace.text ++
    " (type: " ++ d.targetType ++ ")"

instance : ToString TypeDependency := ⟨text⟩

end TypeDependency

namespace AssemblyDependency

def ofSymbols (source target : String) : AssemblyDependency :=
  ⟨.ofSymbol source, .ofSymbol target⟩

def isInternal (d : AssemblyDependency) : Bool := d.source = d.target

def text (d : AssemblyDependency) : String := d.source.text ++ " -> " ++ d.target.text

instance : ToString AssemblyDependency := ⟨text⟩

end AssemblyDependency

end NamespacePolicy
