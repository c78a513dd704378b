import NamespacePolicy.Regex.Basic

/-!
Regular expressions as they are written.  A written expression still holds its flags and the
brackets of its character sets; `Source.depth` measures how deeply it is nested.
-/

namespace NamespacePolicy.Regex

open Unicode

/-- Flags that a group or a flag directive sets or clears; the others stay as they are. -/
structure FlagChange where
  caseless : Option Bool := none
  multiline : Option Bool := none
  dotAll : Option Bool := none
  unicode : Option Bool := none
  crlf : Option Bool := none
  /-- Blanks and comments in the pattern are skipped. -/
  extended : Option Bool := none
deriving DecidableEq, Repr, Inhabited

/-- A character as it is written; `byte` marks the two-digit form `\x41`. -/
structure Literal where
  char : Char
  byte : Bool := false
deriving DecidableEq, Repr, Inhabited

inductive NamedSet where
  | digit
  | blank
  | word
deriving DecidableEq, Repr

/-- A set of characters written without brackets of its own. -/
inductive SetTerm where
  | literal (c : Literal)
  | range (first last : Literal)
  | escape (set : NamedSet) (negated : Bool)
  /-- A set such as `[:alpha:]`, given by its members. -/
  | ascii (members : CharClass) (negated : Bool)
  | property (members : CharClass) (negated : Bool)
deriving DecidableEq, Repr

inductive SetOp where
  | intersection
  | difference
  | symmetricDifference
deriving DecidableEq, Repr

inductive SetBody where
  | empty
  | term (t : SetTerm)
  | bracket (negated : Bool) (body : SetBody)
  | union (first rest : SetBody)
  | op (kind : SetOp) (left right : SetBody)
deriving DecidableEq, Repr, Inhabited

/-- A condition as it is written; what it means can depend on the flags. -/
inductive LookTerm where
  | caret
  | dollar
  | textStart
  | textEnd
  | word (boundary : Boundary)
deriving DecidableEq, Repr

inductive Source where
  | empty
  | directive (change : FlagChange)
  | literal (c : Literal)
  | dot
  | look (term : LookTerm)
  | set (term : SetTerm)
  | bracket (negated : Bool) (body : SetBody)
  | group (remembered : Bool) (change : FlagChange) (body : Source)
  | times (body : Source) (min : Nat) (max : Option Nat)
  | append (first rest : Source)
  | either (first rest : Source)
deriving DecidableEq, Repr, Inhabited

namespace SetBody

/-- The members of a set written one after the other. -/
def ofItems : List SetBody → SetBody
  | [] => empty
  | [item] => item
  | item :: rest => union item (ofItems rest)

/-- The depth of a body; the items of one union lie side by side. -/
def depth : SetBody → Nat
  | empty => 0
  | term _ => 0
  | bracket _ body => body.depth + 1
  | union first rest =>
      max (first.depth + 1) (match rest with
        | union _ _ => rest.depth
        | _ => rest.depth + 1)
  | op _ left right => max left.depth right.depth + 1

end SetBody

namespace Source

def sequence : List Source → Source
  | [] => empty
  | [item] => item
  | item :: rest => append item (sequence rest)

def alternatives : List Source → Source
  | [] => empty
  | [item] => item
  | item :: rest => either item (alternatives rest)

/-- The depth of an expression.  Groups, repetitions and bracketed sets count, and so does each
sequence and each list of alternatives with more than one part. -/
def depth : Source → Nat
  | empty => 0
  | directive _ => 0
  | literal _ => 0
  | dot => 0
  | look _ => 0
  | set _ => 0
  | bracket _ body => body.depth + 1
  | group _ _ body => body.depth + 1
  | times body _ _ => body.depth + 1
  | append first rest =>
      max (first.depth + 1) (match rest with
        | append _ _ => rest.depth
        | _ => rest.depth + 1)
  | either first rest =>
      max (first.depth + 1) (match rest with
        | either _ _ => rest.depth
        | _ => rest.depth + 1)

end Source

end NamespacePolicy.Regex
