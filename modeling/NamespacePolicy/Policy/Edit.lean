import NamespacePolicy.Policy.Draft

/-!
Edits of drafts.  Every draft comes about by edits of the empty one, and each of them may merge in
another draft that came about in the same way.
-/

namespace NamespacePolicy

inductive Edit where
  | setEnabled (value : Option Bool)
  | setChildMayUseParent (value : Option Bool)
  | setParentMayUseChild (value : Option Bool)
  | setMaxIssues (value : Option Nat)
  | setDependencySeverity (value : Option Severity)
  | setLimitSeverity (value : Option Severity)
  | setCheckAssemblies (value : Option Bool)
  | addExcluded (globs : List Glob)
  | addAllow (rule : Rule) (types : TypeNames)
  | addDisallow (rule : Rule)
  | addVisible (ns : Domain) (types : TypeNames)
  | addAllowAssembly (rule : Rule)
  | addDisallowAssembly (rule : Rule)
  /-- Merges in the draft that the given edits make of the empty one. -/
  | combine (edits : List Edit)

namespace Draft

mutual

def edit (d : Draft) : Edit → Draft
  | .setEnabled value => d.setEnabled value
  | .setChildMayUseParent value => d.setChildMayUseParent value
  | .setParentMayUseChild value => d.setParentMayUseChild value
  | .setMaxIssues value => d.setMaxIssues value
  | .setDependencySeverity value => d.setDependencySeverity value
  | .setLimitSeverity value => d.setLimitSeverity value
  | .setCheckAssemblies value => d.setCheckAssemblies value
  | .addExcluded globs => d.addExcluded globs
  | .addAllow rule types => d.addAllow rule types
  | .addDisallow rule => d.addDisallow rule
  | .addVisible ns types => d.addVisible ns types
  | .addAllowAssembly rule => d.addAllowAssembly rule
  | .addDisallowAssembly rule => d.addDisallowAssembly rule
  | .combine edits => d.combine (editAll empty edits)

def editAll (d : Draft) : List Edit → Draft
  | [] => d
  | e :: edits => editAll (d.edit e) edits

end

/-- The draft that some edits make of the empty one. -/
def ofEdits (edits : List Edit) : Draft := editAll empty edits

end Draft

end NamespacePolicy
