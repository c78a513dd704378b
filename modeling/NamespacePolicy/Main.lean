import NamespacePolicy.Command.Run

/-!
The program.  It looks up on disk what a command may ask about, runs the command on that, and
carries out what the command leaves behind.
-/

namespace NamespacePolicy

structure Survey where
  canonical : List (Path × Path) := []
  contents : List (Path × Except AccessError (List UInt8)) := []

namespace Survey

/-- Paths that were not looked up lead nowhere, and the times of changes are not looked up. -/
def files (s : Survey) : Files :=
  { canonical? := fun p => s.canonical.lookup p
    fingerprint? := fun p =>
      match s.contents.lookup p with
      | some (.ok bytes) => some ⟨none, bytes.length⟩
      | some (.error .denied) => some ⟨none, 0⟩
      | _ => none
    read := fun p => (s.contents.lookup p).getD (.error .notFound) }

def accessError : IO.Error → AccessError
  | .permissionDenied _ _ _ => .denied
  | .inappropriateType _ code _ => if code = 21 then .isFolder else .notFolder
  | .invalidArgument _ _ _ => .tooManyLinks
  | _ => .notFound

def addCanonical (s : Survey) (p : Path) : IO Survey := do
  try
    let path : Path := ⟨toString (← IO.FS.realPath p.text)⟩
    return { s with canonical := (p, path) :: s.canonical }
  catch _ => return s

def addContent (s : Survey) (p : Path) : IO Survey := do
  let content ←
    try
      pure (.ok (← IO.FS.readBinFile p.text).toList)
    catch e => pure (.error (accessError e))
  return { s with contents := (p, content) :: s.contents }

def addFolder (s : Survey) (folder : Path) : IO Survey := do
  let s ← s.addCanonical folder
  let start := (s.canonical.lookup folder).getD folder
  (start.ancestors.take maxLevels).foldlM
    (fun s folder => s.addContent (folder.join policyFileName)) s

def addSource (s : Survey) (file : Path) : IO Survey := do
  let s ← s.addCanonical file
  match file.normalized.parent? with
  | some folder => s.addCanonical folder
  | none => return s

def ofCommand : Command → IO Survey
  | .check folder dependencies _ => do
      let s ← addFolder {} folder
      let s ← s.addContent dependencies
      match (s.files.text? dependencies).map DependencyList.parse with
      | some (.ok list) =>
          let sources := list.types.filterMap (·.file)
          sources.foldlM (fun s file => s.addSource ⟨file⟩) s
      | _ => return s
  | .showConfig folder => addFolder {} folder
  | .init _ => do
      let path := (Path.mk ".").join policyFileName
      (← addCanonical {} path).addContent path

end Survey

/-- Prints what a command leaves behind and writes its file. -/
def Outcome.carryOut (o : Outcome) : IO UInt32 := do
  match o.written with
  | some (path, content) => IO.FS.writeFile path.text content
  | none => pure ()
  IO.print o.output
  match o.error with
  | some message => IO.eprintln ("Error: " ++ message)
  | none => pure ()
  return UInt32.ofNat o.exitCode

end NamespacePolicy

open NamespacePolicy in
def main (words : List String) : IO UInt32 := do
  let dependencies? ← IO.getEnv "NSDEPCOP_DEPS"
  let survey ← match Command.parse words dependencies? with
    | .ok command => Survey.ofCommand command
    | .error _ => pure {}
  (Command.runLine .plain survey.files words dependencies?).carryOut
