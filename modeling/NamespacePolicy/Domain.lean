import NamespacePolicy.Text.Blank
import NamespacePolicy.Pattern.Error

/-!
Domains: dotted names of namespaces and assemblies, and the global domain above all of them.
A name from a compiled program is taken as it is; a name from a policy is checked.
-/

namespace NamespacePolicy

/-- A dotted name.  The name `.` is the global domain. -/
structure Domain where
  text : String
deriving DecidableEq, Repr, Inhabited

namespace Domain

def global : Domain := ⟨"."⟩

/-- The spellings under which compilers give the global domain. -/
def globalSpellings : List String := ["", ".", "<global namespace>"]

def ofSymbol (name : String) : Domain :=
  if name ∈ globalSpellings then global else ⟨name⟩

def isGlobal (d : Domain) : Bool := d.text == "."

/-- The names between the dots; the global domain has none. -/
def components (d : Domain) : List String :=
  if d.isGlobal then [] else Text.pieces '.' d.text

theorem components_ofSymbol {name : String} (h : name ∉ globalSpellings) :
    (ofSymbol name).components = Text.pieces '.' name := by
  have hglobal : (Domain.mk name).isGlobal = false := by
    rw [isGlobal, beq_eq_false_iff_ne]
    rintro rfl
    exact h (by decide)
  rw [ofSymbol, if_neg h, components, hglobal]
  rfl

/-- `d` lies strictly below `parent`: its text goes on with a dot after the parent's text. -/
def isBelow (d parent : Domain) : Bool :=
  if d.isGlobal then false
  else if parent.isGlobal then true
  else (parent.text.toList ++ ['.']).isPrefixOf d.text.toList

instance : ToString Domain := ⟨Domain.text⟩

end Domain

/-- The characters that stand for components in a pattern. -/
def isWildcardChar (c : Char) : Bool := c == '?' || c == '*'

def hasWildcard (text : String) : Bool := text.toList.any isWildcardChar

/-- The domain that a policy names: a spelling of the global domain, or a name without wildcards
whose components are not empty. -/
def Domain.parse (text : String) : Except PatternError Domain :=
  let name := Text.trim text
  if name ∈ globalSpellings then .ok global
  else if hasWildcard name then .error (.wildcardInDomain name)
  else if (Text.pieces '.' name).any (· == "") then .error (.emptyComponent name)
  else .ok ⟨name⟩

end NamespacePolicy
