import NamespacePolicy.Regex.Basic
import NamespacePolicy.Unicode.Interval

/-!
How an expression is laid out before it is written down as states.  The layout of an expression
covers what the expression covers, with as few parts as its form shows: neighbouring characters
are one text, alternatives of one character are one set, and what all alternatives begin with
stands in front of them once.
-/

namespace NamespacePolicy.Regex

open Unicode

/-- What one step of a layout takes. -/
inductive Piece where
  /-- The characters of a text, one after the other. -/
  | text (text : List Char)
  /-- One of several texts. -/
  | choice (texts : List (List Char))
  | set (members : List Interval)
deriving DecidableEq, Repr

/-- A set with one member is that character as a text. -/
def Piece.ofMembers (members : List Interval) : Piece :=
  match members with
  | [⟨first, last⟩] => if first = last then text [Char.ofNat first] else set members
  | _ => set members

/-- Code points that no character has are left out. -/
def Piece.ofClass (cls : CharClass) : Piece :=
  ofMembers (CharClass.diff cls (.interval 0xD800 0xDFFF)).intervals

abbrev Layout := Expr Piece Look

namespace Layout

def text? : Layout → Option (List Char)
  | .one (.text text) => some text
  | _ => none

def members? : Layout → Option (List Interval)
  | .one (.set members) => some members
  | _ => none

def remembers : Layout → Bool
  | .empty => false
  | .one _ => false
  | .here _ => false
  | .append a b => remembers a || remembers b
  | .either a b => remembers a || remembers b
  | .group remembered a => remembered || remembers a
  | .times a _ _ => remembers a

/-- A number of pieces that is taken in any case.  There is none if a set without members is part
of the layout. -/
def least? : Layout → Option Nat
  | .empty => some 0
  | .one (.set []) => none
  | .one _ => some 1
  | .here _ => some 0
  | .append a b => do return (← least? a) + (← least? b)
  | .either a b => do return min (← least? a) (← least? b)
  | .group _ a => least? a
  | .times a least _ => (least? a).map (least * ·)

/-- Copies of a layout.  Where it may take nothing, any number of copies is none or at least one. -/
def repeated (e : Layout) (least : Nat) (most : Option Nat) : Layout :=
  if least = 0 ∧ most = none ∧ (least? e).all (· = 0) then .times (.times e 1 none) 0 (some 1)
  else .times e least most

/-- The parts that follow one another; empty ones are left out. -/
def factors : Layout → List Layout
  | .empty => []
  | .append a b => factors a ++ factors b
  | e => [e]

/-- The parts of which one is taken. -/
def branches : Layout → List Layout
  | .either a b => branches a ++ branches b
  | .one (.choice texts) => texts.map fun text => .one (.text text)
  | e => [e]

/-- Texts that follow one another become one text. -/
def joinTexts : List Layout → List Layout
  | [] => []
  | .one (.text text) :: rest =>
      match joinTexts rest with
      | .one (.text more) :: rest => .one (.text (text ++ more)) :: rest
      | rest => .one (.text text) :: rest
  | e :: rest => e :: joinTexts rest

def ofFactors : List Layout → Layout
  | [] => .empty
  | [e] => e
  | e :: rest => .append e (ofFactors rest)

def ofBranches : List Layout → Layout
  | [] => .one (.set [])
  | [e] => e
  | e :: rest => .either e (ofBranches rest)

def sequence (parts : List Layout) : Layout :=
  ofFactors (joinTexts (parts.flatMap factors))

/-- One of several layouts, whatever they begin with. -/
def oneOf (parts : List Layout) : Layout :=
  match parts.flatMap branches with
  | [e] => e
  | parts =>
      match parts.mapM text?, parts.mapM members? with
      | some texts, _ =>
          if texts.all fun text => text.length = 1 then
            .one (.ofMembers (Interval.merge (texts.flatten.map fun c => ⟨c.toNat, c.toNat⟩)))
          else .one (.choice texts)
      | none, some sets => .one (.ofMembers (Interval.merge sets.flatten))
      | none, none => ofBranches parts

/-- The factors with which both lists begin.  Two remembered parts are never the same. -/
def shared : List Layout → List Layout → List Layout
  | a :: as, b :: bs => if a = b ∧ !remembers a then a :: shared as bs else []
  | _, _ => []

/-- One of several layouts.  If each has several factors, those that all begin with are taken out
in front. -/
def alternation (parts : List Layout) : Layout :=
  match (parts.flatMap branches).map factors with
  | [] => oneOf parts
  | [_] => oneOf parts
  | first :: rest =>
      let common := rest.foldl shared first
      if common.isEmpty || (first :: rest).any fun factors => factors.length < 2 then oneOf parts
      else
        let rests := (first :: rest).map fun factors => ofFactors (factors.drop common.length)
        sequence (common ++ [oneOf rests])

end Layout

/-- The layouts of the alternatives of an expression. -/
def CharExpr.branchLayouts : CharExpr → List Layout
  | .empty => [.empty]
  | .one set => [.one (.ofClass set)]
  | .here look => [.here look]
  | .append a b =>
      [Layout.sequence [Layout.alternation (branchLayouts a), Layout.alternation (branchLayouts b)]]
  | .either a b => Layout.alternation (branchLayouts a) :: branchLayouts b
  | .group true a => [.group true (Layout.alternation (branchLayouts a))]
  | .group false a => [Layout.alternation (branchLayouts a)]
  | .times a min max => [Layout.repeated (Layout.alternation (branchLayouts a)) min max]

def CharExpr.layout (e : CharExpr) : Layout := Layout.alternation e.branchLayouts

end NamespacePolicy.Regex
