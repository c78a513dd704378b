/-! Why a pattern is refused. -/

namespace NamespacePolicy

/-- The fault of a pattern, with the pattern as it was read. -/
inductive PatternError where
  /-- Two dots follow each other, or a dot begins or ends the name. -/
  | emptyComponent (pattern : String)
  /-- A plain name holds a question mark or an asterisk. -/
  | wildcardInDomain (pattern : String)
  /-- A wildcard pattern has no wildcard component. -/
  | missingWildcard (pattern : String)
  /-- A component has a wildcard among other characters. -/
  | mixedComponent (pattern component : String)
  /-- Two components that stand for any number of components follow each other. -/
  | adjacentAnyWildcards (pattern : String)
  /-- An expression has no closing delimiter or nothing between its delimiters. -/
  | malformedRegex (pattern : String)
  /-- An expression is ill formed or too large.  Which of these, and where, is for the engine that
  reads expressions to say. -/
  | invalidRegex (pattern : String)
  /-- A tree has a wildcard elsewhere than in its last component. -/
  | invalidTree (pattern : String)
deriving DecidableEq, Repr

/-- The message, given what the engine says of a pattern that it refuses. -/
def PatternError.message (reason : String → String) : PatternError → String
  | emptyComponent p => "`" ++ p ++ "` contains an empty name component"
  | wildcardInDomain p => "domain `" ++ p ++ "` must not contain wildcard characters"
  | missingWildcard p => "wildcard pattern `" ++ p ++ "` contains no `?` or `*` component"
  | mixedComponent p c =>
      "component `" ++ c ++ "` in `" ++ p ++ "` mixes wildcards with literal text"
  | adjacentAnyWildcards p => "`" ++ p ++ "` contains adjacent `*` components"
  | malformedRegex p =>
      "regex pattern `" ++ p ++ "` must be non-empty and enclosed in `/` delimiters"
  | invalidRegex p => "invalid regex `" ++ p ++ "`: " ++ reason p
  | invalidTree p => "namespace tree `" ++ p ++ "` may only end in `.*` (or be a bare `*`)"

end NamespacePolicy
