import NamespacePolicy.Text.Split

/-!
Globs: patterns over file paths.  `?` and `*` stand for one and for any number of characters,
brackets for one character of a set, and `**` as a whole path component for any number of
components.
-/

namespace NamespacePolicy

/-- Why a glob is refused, with the index of the character at fault. -/
inductive GlobError where
  | empty
  | tooManyAsterisks (position : Nat)
  | partialComponent (position : Nat)
  | openRange (position : Nat)
deriving DecidableEq, Repr

def GlobError.message : GlobError → String
  | empty => "glob pattern must not be empty"
  | tooManyAsterisks position =>
      "Pattern syntax error near position " ++ toString position ++
        ": wildcards are either regular `*` or recursive `**`"
  | partialComponent position =>
      "Pattern syntax error near position " ++ toString position ++
        ": recursive wildcards must form a single path component"
  | openRange position =>
      "Pattern syntax error near position " ++ toString position ++ ": invalid range pattern"

namespace Glob

/-- Consecutive characters `first` to `last`; a single character is a range of its own. -/
structure Interval where
  first : Char
  last : Char
deriving DecidableEq, Repr

inductive Token where
  | char (c : Char)
  | anyChar
  | anySequence
  | anyComponents
  | within (set : List Interval)
  | except (set : List Interval)
deriving DecidableEq, Repr

/-- The set between brackets: a hyphen between two characters makes a range. -/
def intervals : List Char → List Interval
  | a :: '-' :: b :: rest => ⟨a, b⟩ :: intervals rest
  | a :: rest => ⟨a, a⟩ :: intervals rest
  | [] => []

def inSet (set : List Interval) (c : Char) : Bool :=
  set.any fun i => i.first ≤ c && c ≤ i.last

/-- Cuts a bracketed set, whose first character is never its end, at the closing bracket. -/
def cutSet? (text : List Char) : Option (List Char × List Char) :=
  match text with
  | [] => none
  | first :: rest =>
      let members := rest.takeWhile (· ≠ ']')
      match rest.dropWhile (· ≠ ']') with
      | _ :: after => some (first :: members, after)
      | [] => none

def asterisks (text : List Char) : Nat := (text.takeWhile (· = '*')).length

/-- A token for components is not repeated, except for one that begins the glob. -/
def pushComponents (done : List Token) : List Token :=
  match done with
  | .anyComponents :: _ :: _ => done
  | _ => .anyComponents :: done

/-- Reads tokens, newest first in `done`; `previous` is the character before `text`. -/
def readTokens : (fuel : Nat) → (position : Nat) → (previous : Option Char) → (text : List Char) →
    (done : List Token) → Except GlobError (List Token)
  | 0, _, _, _, done => .ok done.reverse
  | _, _, _, [], done => .ok done.reverse
  | fuel + 1, position, previous, '*' :: rest, done =>
      let count := asterisks ('*' :: rest)
      let after := rest.drop (count - 1)
      if 2 < count then .error (.tooManyAsterisks (position + 2))
      else if count = 2 then
        if previous = none ∨ previous = some '/' then
          match after with
          | '/' :: more =>
              readTokens fuel (position + 3) (some '/') more (pushComponents done)
          | [] => .ok (pushComponents done).reverse
          | _ => .error (.partialComponent (position + 2))
        else .error (.partialComponent (position - 1))
      else readTokens fuel (position + 1) (some '*') rest (.anySequence :: done)
  | fuel + 1, position, _, '?' :: rest, done =>
      readTokens fuel (position + 1) (some '?') rest (.anyChar :: done)
  | fuel + 1, position, _, '[' :: '!' :: rest, done =>
      match cutSet? rest with
      | some (members, after) =>
          readTokens fuel (position + members.length + 3) (some ']') after
            (.except (intervals members) :: done)
      | none => .error (.openRange position)
  | fuel + 1, position, _, '[' :: rest, done =>
      match cutSet? rest with
      | some (members, after) =>
          readTokens fuel (position + members.length + 2) (some ']') after
            (.within (intervals members) :: done)
      | none => .error (.openRange position)
  | fuel + 1, position, _, c :: rest, done =>
      readTokens fuel (position + 1) (some c) rest (.char c :: done)

/-- The outcome of laying tokens over a text.  When the text ends too soon, giving more of it to
an earlier token cannot help. -/
inductive Outcome where
  | matched
  | mismatch
  | tooShort
deriving DecidableEq, Repr

def Token.accepts : Token → Char → Bool
  | .char expected, c => c == expected
  | .anyChar, _ => true
  | .within set, c => inSet set c
  | .except set, c => !inSet set c
  | .anySequence, _ => true
  | .anyComponents, _ => true

/-- Goes on with `rest` after each of the characters that a wildcard can end with, and at the end
of the text; a wildcard for components only ends with a slash or with the text. -/
def skip (whole : Bool) (rest : List Char → Outcome) : List Char → Outcome
  | [] => rest []
  | c :: more =>
      if whole && c ≠ '/' then skip whole rest more
      else
        match rest more with
        | .mismatch => skip whole rest more
        | outcome => outcome

def run : List Token → List Char → Outcome
  | [], [] => .matched
  | [], _ :: _ => .mismatch
  | .anySequence :: tokens, text =>
      match run tokens text with
      | .mismatch => skip false (run tokens) text
      | outcome => outcome
  | .anyComponents :: tokens, text =>
      match run tokens text with
      | .mismatch => skip true (run tokens) text
      | outcome => outcome
  | _ :: _, [] => .tooShort
  | token :: tokens, c :: text => if token.accepts c then run tokens text else .mismatch

end Glob

structure Glob where
  text : String
  tokens : List Glob.Token
deriving DecidableEq, Repr

namespace Glob

def parse (text : String) : Except GlobError Glob :=
  if text = "" then .error .empty
  else (readTokens (text.length + 1) 0 none text.toList []).map (Glob.mk text)

/-- Backslashes count as slashes. -/
def slashed (path : String) : List Char :=
  path.toList.map fun c => if c = '\\' then '/' else c

/-- The folder whose contents a glob with `/**` at its end names. -/
def folder? (g : Glob) : Option (List Char) :=
  let text := g.text.toList
  if ['/', '*', '*'].isSuffixOf text then
    some ((text.take (text.length - 3)).reverse.dropWhile (· = '/')).reverse
  else none

def covers (g : Glob) (path : String) : Bool :=
  let path := slashed path
  run g.tokens path == .matched ||
    match g.folder? with
    | some folder => (folder ++ ['/']).isPrefixOf path
    | none => false

end Glob

end NamespacePolicy
