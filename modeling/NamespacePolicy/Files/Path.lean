import NamespacePolicy.Text.Split

/-!
Paths of files and folders.  A path keeps the text it was given; what it means is the list of its
parts, which neither repeated slashes nor dots between them change.
-/

namespace NamespacePolicy

structure Path where
  text : String
deriving DecidableEq, Repr, Inhabited

namespace Path

inductive Part where
  | root
  /-- A dot that begins a relative path. -/
  | here
  | up
  | name (text : String)
deriving DecidableEq, Repr

def pieces (p : Path) : List String := Text.pieces '/' p.text

def isAbsolute (p : Path) : Bool := p.text.toList.head? == some '/'

/-- The part that a piece stands for, but for a leading one. -/
def part? : String → Option Part
  | "" => none
  | "." => none
  | ".." => some .up
  | text => some (.name text)

def parts (p : Path) : List Part :=
  match p.pieces with
  | [] => []
  | first :: rest =>
      let leading :=
        if p.isAbsolute then [Part.root] else if first = "." then [.here] else (part? first).toList
      leading ++ rest.filterMap part?

/-- Whether two paths have the same parts. -/
def same (p q : Path) : Bool := p.parts = q.parts

def Part.text : Part → String
  | root => ""
  | here => "."
  | up => ".."
  | name text => text

/-- The plainest path with the given parts. -/
def ofParts (parts : List Part) : Path :=
  match parts with
  | [.root] => ⟨"/"⟩
  | parts => ⟨Text.joined "/" (parts.map Part.text)⟩

def ofNames (names : List String) : Path := ofParts (.root :: names.map .name)

/-- `q` seen from `p`; an absolute path stays what it is. -/
def join (p q : Path) : Path :=
  if q.isAbsolute then q
  else if p.text = "" ∨ p.text.toList.getLast? = some '/' then ⟨p.text ++ q.text⟩
  else ⟨p.text ++ "/" ++ q.text⟩

/-- The pieces without those at the end that stand for no part. -/
def trimmed : List String → List String
  | [] => []
  | first :: rest => first :: (rest.reverse.dropWhile fun piece => piece = "" ∨ piece = ".").reverse

/-- The path without its last part; the root and the empty path have none to lose. -/
def parent? (p : Path) : Option Path :=
  match trimmed p.pieces with
  | [] => none
  | [only] => if only = "" then none else some ⟨""⟩
  | first :: rest =>
      match trimmed (first :: rest.dropLast) with
      | [""] => some ⟨"/"⟩
      | kept => some ⟨Text.joined "/" kept⟩

/-- The path and all that lead to it, as many as the fuel allows. -/
def ancestorsFrom : (fuel : Nat) → Path → List Path
  | 0, _ => []
  | fuel + 1, p =>
      p :: match p.parent? with
        | some parent => ancestorsFrom fuel parent
        | none => []

def ancestors (p : Path) : List Path := ancestorsFrom (p.pieces.length + 1) p

def fileName? (p : Path) : Option String :=
  match p.parts.getLast? with
  | some (.name text) => some text
  | _ => none

/-- Adds a part after others, which stand newest first: going up takes a name back. -/
def fold : List Part → Part → List Part
  | done, .here => done
  | .name _ :: done, .up => done
  | done, part => part :: done

/-- The path without dots, and without names that are left again. -/
def normalized (p : Path) : Path := ofParts (p.parts.foldl fold []).reverse

/-- The rest of a path that leads through a folder. -/
def within? (p folder : Path) : Option Path :=
  if folder.parts.isPrefixOf p.parts then some (ofParts (p.parts.drop folder.parts.length))
  else none

end Path

end NamespacePolicy
