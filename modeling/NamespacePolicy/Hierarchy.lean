import NamespacePolicy.PolicyFile.Parse

/-!
The policy of a folder, which comes from the policy files in the folder and in the folders above
it.  Drafts are merged from the outermost folder inwards.  A file is only read again when its
fingerprint shows a change, or when it could not be used.
-/

namespace NamespacePolicy

inductive PolicyState where
  | enabled (policy : Policy)
  | disabled
  | noFile
  | failed (error : PolicyError)
deriving DecidableEq

namespace PolicyState

def policy? : PolicyState → Option Policy
  | enabled policy => some policy
  | _ => none

def text : PolicyState → String
  | enabled _ => "enabled"
  | disabled => "disabled"
  | noFile => "no-config"
  | failed _ => "config-error"

instance : ToString PolicyState := ⟨text⟩

end PolicyState

/-- One policy file of a hierarchy, as it was when it was read. -/
structure Level where
  path : Path
  fingerprint : Fingerprint
  draft : Except PolicyError Draft

namespace Level

/-- Whether the file could be used and still has its fingerprint. -/
def isCurrent (level : Level) (path : Path) (fingerprint : Fingerprint) : Bool :=
  level.draft.isOk && level.path.same path && level.fingerprint = fingerprint

end Level

/-- The state of levels from the outermost to the innermost one: the first that failed, or else
what all of them together say after the drafts that were merged before. -/
def mergeLevels (merged : Draft) : List Level → PolicyState
  | [] =>
      let policy := merged.complete
      if policy.enabled then .enabled policy else .disabled
  | level :: levels =>
      match level.draft with
      | .ok draft => mergeLevels (merged.combine draft) levels
      | .error e => .failed e

def stateOfLevels (levels : List Level) : PolicyState :=
  if levels.isEmpty then .noFile else mergeLevels .empty levels

def policyFileName : Path := ⟨"nsdepcop.toml"⟩

/-- How many folders can have a say at most, the innermost one included. -/
def maxLevels : Nat := 10

/-- Takes out the item at a place, which the last item then takes. -/
def swapRemove {α : Type} (items : List α) (place : Nat) : List α :=
  match items.getLast? with
  | some last => (items.set place last).dropLast
  | none => []

structure Hierarchy where
  folder : Path
  depth : Nat := maxLevels
  /-- From the outermost to the innermost file. -/
  levels : List Level := []
  state : PolicyState := .noFile
  /-- Whether the files were ever looked for. -/
  loaded : Bool := false

namespace Hierarchy

/-- A hierarchy whose files are not looked for yet; at least the folder itself has a say. -/
def ofFolder (folder : Path) (depth : Option Nat) : Hierarchy :=
  { folder, depth := match depth with
      | some depth => max 1 (min depth maxLevels)
      | none => maxLevels }

/-- The policy files of a folder and those above it, the outermost first. -/
def discover (files : Files) (folder : Path) (depth : Nat) : List (Path × Fingerprint) :=
  let start := (files.canonical? folder).getD folder
  ((start.ancestors.take depth).filterMap fun folder =>
    let path := folder.join policyFileName
    (files.fingerprint? path).map (path, ·)).reverse

/-- Whether the files found are the levels there are, and none of them has to be read again. -/
def areCurrent : List (Path × Fingerprint) → List Level → Bool
  | [], [] => true
  | (path, fingerprint) :: found, level :: levels =>
      level.isCurrent path fingerprint && areCurrent found levels
  | _, _ => false

def load (files : Files) (path : Path) (fingerprint : Fingerprint) : Level :=
  ⟨path, fingerprint, files.draft path⟩

/-- The first of the earlier levels that is still current, and the other ones. -/
def takeCurrent? (earlier : List Level) (path : Path) (fingerprint : Fingerprint) :
    Option (Level × List Level) := do
  let place ← earlier.findIdx? (·.isCurrent path fingerprint)
  let level ← earlier[place]?
  return (level, swapRemove earlier place)

/-- The levels of the files found.  A file is only read if no earlier level is still current; an
earlier level is taken over once at most. -/
def levelsOf (files : Files) : (earlier : List Level) → List (Path × Fingerprint) → List Level
  | _, [] => []
  | earlier, (path, fingerprint) :: found =>
      match takeCurrent? earlier path fingerprint with
      | some (level, others) => level :: levelsOf files others found
      | none => load files path fingerprint :: levelsOf files earlier found

/-- Looks for the files again.  Gives also whether anything may have changed. -/
def refresh (h : Hierarchy) (files : Files) : Hierarchy × Bool :=
  let found := discover files h.folder h.depth
  if h.loaded && areCurrent found h.levels then (h, false)
  else
    let levels := levelsOf files h.levels found
    ({ h with levels, state := stateOfLevels levels, loaded := true }, true)

def paths (h : Hierarchy) : List Path := h.levels.map (·.path)

end Hierarchy

end NamespacePolicy
