import NamespacePolicy.Text.Position

/-!
What a policy file says.  Texts that still have to be understood keep their place in the file, so
that a fault in them can be shown there.
-/

namespace NamespacePolicy

open Text

structure LocatedText where
  text : String
  span : Span
deriving DecidableEq, Repr

structure AllowEntry where
  source : LocatedText
  target : LocatedText
  visible : List String := []
deriving DecidableEq, Repr

structure RuleEntry where
  source : LocatedText
  target : LocatedText
deriving DecidableEq, Repr

structure MembersEntry where
  namespaceName : LocatedText
  types : List String
deriving DecidableEq, Repr

structure PolicyFile where
  enabled : Option Bool := none
  childMayUseParent : Option Bool := none
  parentMayUseChild : Option Bool := none
  maxIssues : Option Nat := none
  dependencySeverity : Option LocatedText := none
  limitSeverity : Option LocatedText := none
  checkAssemblies : Option Bool := none
  excluded : List LocatedText := []
  patternSyntax : Option LocatedText := none
  allowed : List AllowEntry := []
  disallowed : List RuleEntry := []
  visibleMembers : List MembersEntry := []
  allowedAssembly : List RuleEntry := []
  disallowedAssembly : List RuleEntry := []
deriving DecidableEq, Repr

end NamespacePolicy
