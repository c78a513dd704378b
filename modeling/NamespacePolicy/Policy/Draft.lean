import NamespacePolicy.Policy.Basic

/-!
Drafts of a policy.  A draft says only what one source of settings says; drafts are merged from
the most general to the most specific one and then completed with the defaults.
-/

namespace NamespacePolicy

/-- Adds names to the entry of a key, which keeps its place; a new key goes to the end. -/
def addTypes {κ : Type} [DecidableEq κ] (key : κ) (types : TypeNames) :
    List (κ × TypeNames) → List (κ × TypeNames)
  | [] => [(key, types)]
  | entry :: rest =>
      if entry.1 = key then (entry.1, entry.2.union types) :: rest
      else entry :: addTypes key types rest

/-- Adds an item at the end, unless it is there already. -/
def addNew {α : Type} [DecidableEq α] (items : List α) (item : α) : List α :=
  if item ∈ items then items else items ++ [item]

/-- Allow rules in the order in which they were first given, each with the types visible through
it.  The index says where a rule stands. -/
structure AllowTable where
  rows : List (Rule × TypeNames) := []
  index : List (Rule × Nat) := []
deriving DecidableEq

/-- A rule given again keeps its place and shows the types of both. -/
def AllowTable.add (t : AllowTable) (rule : Rule) (types : TypeNames) : AllowTable :=
  match t.index.lookup rule with
  | some place => { t with rows := t.rows.modify place fun row => (row.1, row.2.union types) }
  | none => { rows := t.rows ++ [(rule, types)], index := (rule, t.rows.length) :: t.index }

structure Draft where
  enabled : Option Bool := none
  childMayUseParent : Option Bool := none
  parentMayUseChild : Option Bool := none
  maxIssues : Option Nat := none
  dependencySeverity : Option Severity := none
  limitSeverity : Option Severity := none
  checkAssemblies : Option Bool := none
  excluded : List Glob := []
  allow : AllowTable := {}
  disallow : List Rule := []
  visibleMembers : List (Domain × TypeNames) := []
  allowAssembly : List Rule := []
  disallowAssembly : List Rule := []
deriving DecidableEq

namespace Draft

def empty : Draft := {}

instance : Inhabited Draft := ⟨empty⟩

/-! A value that is not given leaves the one that was there. -/

def setEnabled (d : Draft) (value : Option Bool) : Draft :=
  { d with enabled := value <|> d.enabled }

def setChildMayUseParent (d : Draft) (value : Option Bool) : Draft :=
  { d with childMayUseParent := value <|> d.childMayUseParent }

def setParentMayUseChild (d : Draft) (value : Option Bool) : Draft :=
  { d with parentMayUseChild := value <|> d.parentMayUseChild }

def setMaxIssues (d : Draft) (value : Option Nat) : Draft :=
  { d with maxIssues := value <|> d.maxIssues }

def setDependencySeverity (d : Draft) (value : Option Severity) : Draft :=
  { d with dependencySeverity := value <|> d.dependencySeverity }

def setLimitSeverity (d : Draft) (value : Option Severity) : Draft :=
  { d with limitSeverity := value <|> d.limitSeverity }

def setCheckAssemblies (d : Draft) (value : Option Bool) : Draft :=
  { d with checkAssemblies := value <|> d.checkAssemblies }

/-! Lists only grow, and hold nothing twice. -/

def addExcluded (d : Draft) (globs : List Glob) : Draft :=
  { d with excluded := globs.foldl addNew d.excluded }

def addAllow (d : Draft) (rule : Rule) (types : TypeNames) : Draft :=
  { d with allow := d.allow.add rule types }

def addDisallow (d : Draft) (rule : Rule) : Draft :=
  { d with disallow := addNew d.disallow rule }

def addVisible (d : Draft) (ns : Domain) (types : TypeNames) : Draft :=
  { d with visibleMembers := addTypes ns types d.visibleMembers }

def addAllowAssembly (d : Draft) (rule : Rule) : Draft :=
  { d with allowAssembly := addNew d.allowAssembly rule }

def addDisallowAssembly (d : Draft) (rule : Rule) : Draft :=
  { d with disallowAssembly := addNew d.disallowAssembly rule }

/-- Adds all that `other` says; where both set a value, that of `other` counts. -/
def combine (d other : Draft) : Draft :=
  let d := d.setEnabled other.enabled
    |>.setChildMayUseParent other.childMayUseParent
    |>.setParentMayUseChild other.parentMayUseChild
    |>.setMaxIssues other.maxIssues
    |>.setDependencySeverity other.dependencySeverity
    |>.setLimitSeverity other.limitSeverity
    |>.setCheckAssemblies other.checkAssemblies
    |>.addExcluded other.excluded
  let d := other.allow.rows.foldl (fun d (rule, types) => d.addAllow rule types) d
  let d := other.disallow.foldl addDisallow d
  let d := other.visibleMembers.foldl (fun d (ns, types) => d.addVisible ns types) d
  let d := other.allowAssembly.foldl addAllowAssembly d
  other.disallowAssembly.foldl addDisallowAssembly d

/-- The policy with a default for everything the draft does not set. -/
def complete (d : Draft) : Policy :=
  let default : Policy := {}
  { enabled := d.enabled.getD default.enabled
    childMayUseParent := d.childMayUseParent.getD default.childMayUseParent
    parentMayUseChild := d.parentMayUseChild.getD default.parentMayUseChild
    maxIssues := d.maxIssues.getD default.maxIssues
    dependencySeverity := d.dependencySeverity.getD default.dependencySeverity
    limitSeverity := d.limitSeverity.getD default.limitSeverity
    checkAssemblies := d.checkAssemblies.getD default.checkAssemblies
    excluded := d.excluded
    allow := d.allow.rows.map fun (rule, visible) => { rule, visible }
    disallow := d.disallow
    visibleMembers := d.visibleMembers
    allowAssembly := d.allowAssembly
    disallowAssembly := d.disallowAssembly }

end Draft

end NamespacePolicy
