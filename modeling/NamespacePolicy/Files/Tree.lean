import NamespacePolicy.Files.Basic

/-!
Files in a tree of folders with symbolic links.  A path is walked piece by piece: going up leaves
the folder that was really reached, which after a link is not the one that was written.
-/

namespace NamespacePolicy

inductive FileNode where
  | file (content : List UInt8) (modified : Int)
  | folder (entries : List (String × FileNode))
  | link (target : String)
deriving Repr, Inhabited

namespace FileNode

def entry? (name : String) : FileNode → Option FileNode
  | folder entries => entries.lookup name
  | _ => none

def at? : FileNode → List String → Option FileNode
  | node, [] => some node
  | node, name :: rest => (node.entry? name).bind (·.at? rest)

def set (name : String) (node : FileNode) : List (String × FileNode) → List (String × FileNode)
  | [] => [(name, node)]
  | (first, old) :: rest =>
      if first = name then (name, node) :: rest else (first, old) :: set name node rest

/-- Puts something at the end of some names, all but the last of which are folders. -/
def put : FileNode → List String → FileNode → FileNode
  | _, [], new => new
  | folder entries, name :: rest, new =>
      folder (set name (put ((entries.lookup name).getD (folder [])) rest new) entries)
  | node, _ :: _, _ => node

def erase : FileNode → List String → FileNode
  | folder entries, [name] => folder (entries.filter (·.1 ≠ name))
  | folder entries, name :: rest =>
      match entries.lookup name with
      | some inner => folder (set name (erase inner rest) entries)
      | none => folder entries
  | node, _ => node

end FileNode

inductive Place where
  | existing (names : List String)
  /-- Nothing has the last name, but its folder is there. -/
  | absent (folder : List String) (name : String)
deriving DecidableEq, Repr

/-- Walks some pieces of a path on from a folder.  Where a link is met, `follow` goes on from the
folder where its target begins. -/
def walkBy (root : FileNode) (follow : List String → List String → Except AccessError Place) :
    (here : List String) → (pieces : List String) → Except AccessError Place
  | here, [] => .ok (.existing here)
  | here, piece :: rest =>
      match root.at? here with
      | some (.folder entries) =>
          if piece = "" ∨ piece = "." then walkBy root follow here rest
          else if piece = ".." then walkBy root follow here.dropLast rest
          else
            match entries.lookup piece with
            | none => if rest.isEmpty then .ok (.absent here piece) else .error .notFound
            | some (.link target) =>
                let start := if (Path.mk target).isAbsolute then [] else here
                follow start ((Path.mk target).pieces ++ rest)
            | some _ => walkBy root follow (here ++ [piece]) rest
      | some _ => .error .notFolder
      | none => .error .notFound

/-- A walk on which no more links than given are followed. -/
def walk (root : FileNode) :
    (links : Nat) → (here : List String) → (pieces : List String) → Except AccessError Place
  | 0 => walkBy root fun _ _ => .error .tooManyLinks
  | links + 1 => walkBy root (walk root links)

/-- A tree, and the folder from which relative paths are seen. -/
structure FileTree where
  root : FileNode := .folder []
  current : Path := ⟨"/"⟩
deriving Repr

namespace FileTree

def maxLinks : Nat := 40

def locate (t : FileTree) (p : Path) : Except AccessError Place :=
  if p.text = "" then .error .notFound else walk t.root maxLinks [] (t.current.join p).pieces

def existing? (t : FileTree) (p : Path) : Option (List String) :=
  match t.locate p with
  | .ok (.existing names) => some names
  | _ => none

def node? (t : FileTree) (p : Path) : Option FileNode := (t.existing? p).bind t.root.at?

def read (t : FileTree) (p : Path) : Except AccessError (List UInt8) :=
  match t.locate p with
  | .error e => .error e
  | .ok (.absent _ _) => .error .notFound
  | .ok (.existing names) =>
      match t.root.at? names with
      | some (.file content _) => .ok content
      | some (.folder _) => .error .isFolder
      | _ => .error .notFound

def fingerprint? (t : FileTree) (p : Path) : Option Fingerprint :=
  match t.node? p with
  | some (.file content modified) => some ⟨some modified, content.length⟩
  | _ => none

def files (t : FileTree) : Files :=
  { canonical? := fun p => (t.existing? p).map Path.ofNames
    fingerprint? := t.fingerprint?
    read := t.read }

/-- Makes the folders that are missing on the way to a path, and the last one. -/
def makeFolders (t : FileTree) (p : Path) : FileTree :=
  (t.current.join p).ancestors.reverse.foldl (fun t folder =>
    match t.locate folder with
    | .ok (.absent parent name) =>
        { t with root := t.root.put (parent ++ [name]) (.folder []) }
    | _ => t) t

/-- Writes a file, after making its folders.  A link is written through. -/
def write (t : FileTree) (p : Path) (content : List UInt8) (modified : Int) : FileTree :=
  let t := match (t.current.join p).parent? with
    | some parent => t.makeFolders parent
    | none => t
  match t.locate p with
  | .ok (.absent folder name) =>
      { t with root := t.root.put (folder ++ [name]) (.file content modified) }
  | .ok (.existing names) =>
      match t.root.at? names with
      | some (.file _ _) => { t with root := t.root.put names (.file content modified) }
      | _ => t
  | .error _ => t

def touch (t : FileTree) (p : Path) (modified : Int) : FileTree :=
  match t.existing? p with
  | some names =>
      match t.root.at? names with
      | some (.file content _) => { t with root := t.root.put names (.file content modified) }
      | _ => t
  | none => t

/-- Where the last name of a path stands, if links at the end are not followed. -/
def entryOf? (t : FileTree) (p : Path) : Option (List String) := do
  let full := t.current.join p
  let name ← full.fileName?
  let folder ← t.existing? (← full.parent?)
  return folder ++ [name]

def remove (t : FileTree) (p : Path) : FileTree :=
  match t.entryOf? p with
  | some names => { t with root := t.root.erase names }
  | none => t

/-- Makes a link, unless its name is taken. -/
def link (t : FileTree) (p : Path) (target : String) : FileTree :=
  let t := match (t.current.join p).parent? with
    | some parent => t.makeFolders parent
    | none => t
  match t.entryOf? p with
  | some names =>
      if (t.root.at? names).isSome then t
      else { t with root := t.root.put names (.link target) }
  | none => t

end FileTree

end NamespacePolicy
