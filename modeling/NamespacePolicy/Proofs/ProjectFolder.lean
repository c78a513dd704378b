import NamespacePolicy.Analyzer
import NamespacePolicy.Proofs.Refresh
import NamespacePolicy.Proofs.Spelling

/-!
Which policy files an analyzer names after it was opened.  The analyzer resolves its folder when it
is opened, and its hierarchy resolves it again when it looks for files.  A folder that is not there
cannot be resolved: then the analyzer takes it without the names that are left again, but the
hierarchy takes it as it was written.
-/

namespace NamespacePolicy.Proofs.ProjectFolder

open Discovery Hierarchy Paths Refresh Spelling

def isFile (t : FileTree) (p : Path) : Bool :=
  match t.node? p with
  | some (.file _ _) => true
  | _ => false

/-- The policy files in a folder and in those above it, so many folders at most, the outermost
first. -/
def policyPaths (t : FileTree) (folder : Path) (depth : Nat) : List Path :=
  (((folder.ancestors.take depth).map (·.join policyFileName)).filter (isFile t)).reverse

theorem isSome_fingerprint? (t : FileTree) (p : Path) :
    (t.fingerprint? p).isSome = isFile t p := by
  rw [FileTree.fingerprint?, isFile]
  cases t.node? p with
  | none => rfl
  | some node => cases node <;> rfl

theorem map_found (t : FileTree) (folders : List Path) :
    (folders.filterMap fun folder =>
        let path := folder.join policyFileName
        (t.files.fingerprint? path).map (path, ·)).map (·.1) =
      (folders.map (·.join policyFileName)).filter (isFile t) := by
  induction folders with
  | nil => rfl
  | cons folder rest ih =>
      have hfile := isSome_fingerprint? t (folder.join policyFileName)
      rw [List.map_cons]
      cases hfound : t.fingerprint? (folder.join policyFileName) with
      | none =>
          rw [hfound, Option.isSome_none, eq_comm] at hfile
          rw [List.filter_cons_of_neg (by simp [hfile]), ← ih]
          simp [FileTree.files, hfound]
      | some fingerprint =>
          rw [hfound, Option.isSome_some, eq_comm] at hfile
          rw [List.filter_cons_of_pos hfile, ← ih]
          simp [FileTree.files, hfound]

theorem map_discover (t : FileTree) (folder : Path) (depth : Nat) :
    (discover t.files folder depth).map (·.1) =
      policyPaths t ((t.files.canonical? folder).getD folder) depth := by
  rw [discover, List.map_reverse, policyPaths, map_found]

section Open

variable (files : Files) (folder : Path) (depth : Option Nat)

theorem folder_openFolder :
    (Analyzer.openFolder files folder depth).folder =
      (files.canonical? folder).getD folder.normalized := by
  simp only [Analyzer.openFolder, Analyzer.refresh]
  split <;> rfl

theorem hierarchy_openFolder :
    (Analyzer.openFolder files folder depth).hierarchy =
      ((Hierarchy.ofFolder folder depth).refresh files).1 := by
  have hchanged : ((Hierarchy.ofFolder folder depth).refresh files).2 = true := by
    simp [Hierarchy.refresh, Hierarchy.ofFolder]
  simp only [Analyzer.openFolder, Analyzer.refresh, hchanged, if_true]

theorem depth_ofFolder :
    (Hierarchy.ofFolder folder depth).depth = max 1 (min (depth.getD maxLevels) maxLevels) := by
  cases depth <;> rfl

theorem paths_openFolder_eq (t : FileTree) :
    (Analyzer.openFolder t.files folder depth).hierarchy.paths =
      policyPaths t ((t.files.canonical? folder).getD folder)
        (max 1 (min (depth.getD maxLevels) maxLevels)) := by
  rw [hierarchy_openFolder, refresh_ofFolder, Hierarchy.paths, List.map_map, depth_ofFolder,
    ← map_discover]
  rfl

end Open

theorem policyFiles_congr (t : FileTree) {folders others : List Path}
    (habsolute : ∀ folder ∈ folders, folder.isAbsolute = true)
    (h : folders.map Path.parts = others.map Path.parts) :
    ((folders.map (·.join policyFileName)).filter (isFile t)).map Path.parts =
      ((others.map (·.join policyFileName)).filter (isFile t)).map Path.parts := by
  induction folders generalizing others with
  | nil => rw [List.map_eq_nil_iff.mp h.symm]
  | cons folder folders ih =>
      obtain ⟨other, others, rfl, hparts, hrest⟩ := List.map_eq_cons_iff.mp h.symm
      have hnode : t.node? (folder.join policyFileName) = t.node? (other.join policyFileName) :=
        node?_join_congr rfl (by decide) t (habsolute folder List.mem_cons_self) hparts.symm
      have hfile : isFile t (folder.join policyFileName) =
          isFile t (other.join policyFileName) := by
        rw [isFile, isFile, hnode]
      have htail := ih (fun above h => habsolute above (List.mem_cons_of_mem _ h)) hrest.symm
      rw [List.map_cons, List.map_cons, List.filter_cons, List.filter_cons, hfile]
      split
      · rw [List.map_cons, List.map_cons, htail, parts_join_policyFileName,
          parts_join_policyFileName, hparts]
      · exact htail

theorem policyPaths_congr (t : FileTree) {p q : Path} (hp : p.isAbsolute = true)
    (h : p.parts = q.parts) (depth : Nat) :
    (policyPaths t p depth).map Path.parts = (policyPaths t q depth).map Path.parts := by
  rw [policyPaths, policyPaths, List.map_reverse, List.map_reverse, List.reverse_inj]
  refine policyFiles_congr t ?_ ?_
  · intro folder hfolder
    exact isAbsolute_of_mem_ancestors hp (List.mem_of_mem_take hfolder)
  · rw [List.map_take, List.map_take, map_parts_ancestors hp,
      map_parts_ancestors (isAbsolute_congr h ▸ hp), h]

theorem parts_of_mem_policyPaths {t : FileTree} {folder : Path} {depth : Nat} {path : Path}
    (h : path ∈ policyPaths t folder depth) :
    ∃ above, above <+: folder.parts ∧ path.parts = above ++ [.name "nsdepcop.toml"] := by
  simp only [policyPaths, List.mem_reverse, List.mem_filter, List.mem_map] at h
  obtain ⟨⟨above, habove, rfl⟩, -⟩ := h
  exact ⟨above.parts, parts_prefix_of_mem_ancestorsFrom (List.mem_of_mem_take habove),
    parts_join_policyFileName above⟩

/-- If the folder is there, or no name in its path is left again, then the policy files of the
hierarchy are those in the analyzer's folder and above it; each lies in a folder of its own. -/
theorem paths_openFolder {t : FileTree} {folder : Path} (depth : Option Nat)
    (habsolute : folder.isAbsolute = true)
    (hplain : (∃ names, t.existing? folder = some names) ∨ IsStraight folder) :
    let a := Analyzer.openFolder t.files folder depth
    a.hierarchy.paths.map Path.parts =
        (policyPaths t a.folder (max 1 (min (depth.getD maxLevels) maxLevels))).map Path.parts ∧
      (∀ path ∈ a.hierarchy.paths, ∃ above, above <+: a.folder.parts ∧
        path.parts = above ++ [.name "nsdepcop.toml"]) ∧
      (a.hierarchy.paths.map Path.parts).Nodup := by
  intro a
  have hfolder : a.folder = _ := folder_openFolder t.files folder depth
  have hpaths : a.hierarchy.paths = _ := paths_openFolder_eq folder depth t
  have hsearched : ((t.files.canonical? folder).getD folder).parts = a.folder.parts ∧
      a.hierarchy.paths.map Path.parts =
        (policyPaths t a.folder (max 1 (min (depth.getD maxLevels) maxLevels))).map Path.parts := by
    cases hcanonical : t.files.canonical? folder with
    | some resolved =>
        rw [hcanonical, Option.getD_some] at hfolder hpaths
        rw [Option.getD_some, hpaths, hfolder]
        exact ⟨rfl, rfl⟩
    | none =>
        have hstraight : IsStraight folder := by
          refine hplain.resolve_left ?_
          rintro ⟨names, hnames⟩
          simp [FileTree.files, hnames] at hcanonical
        rw [hcanonical, Option.getD_none] at hfolder hpaths
        have hparts : folder.parts = a.folder.parts := by
          rw [hfolder, parts_normalized habsolute hstraight]
        rw [Option.getD_none, hpaths]
        exact ⟨hparts, policyPaths_congr t habsolute hparts _⟩
  obtain ⟨hparts, hsame⟩ := hsearched
  refine ⟨hsame, ?_, ?_⟩
  · intro path hpath
    rw [hpaths] at hpath
    exact hparts ▸ parts_of_mem_policyPaths hpath
  · rw [hpaths, ← map_discover, List.map_map]
    exact parts_discover_nodup ..

/-- The folder is missing behind a link, so the files are those on the way that was written. -/
theorem missing_folder_paths :
    let t : FileTree :=
      { root := .folder
          [("a", .folder [("nsdepcop.toml", .file [] 0)]), ("link", .link "/a"),
            ("nsdepcop.toml", .file [] 0)] }
    let a := Analyzer.openFolder t.files ⟨"/link/./missing"⟩ (some 2)
    t.existing? ⟨"/link/./missing"⟩ = none ∧
      a.folder = ⟨"/link/missing"⟩ ∧
      a.hierarchy.paths.map Path.parts = [[.root, .name "link", .name "nsdepcop.toml"]] := by
  intro t a
  have hfolder : a.folder = ⟨"/link/missing"⟩ := by decide +kernel
  have hpaths : policyPaths t ⟨"/link/missing"⟩ 2 = [⟨"/link/nsdepcop.toml"⟩] := by decide +kernel
  have hstraight : IsStraight ⟨"/link/./missing"⟩ := by
    intro before name after h
    have hup : Path.Part.up ∈ (Path.mk "/link/./missing").parts := by simp [h]
    exact absurd hup (by decide +kernel)
  have hdepth : max 1 (min ((some 2).getD maxLevels) maxLevels) = 2 := rfl
  obtain ⟨hsame, -, -⟩ := paths_openFolder (t := t) (some 2) (by decide) (.inr hstraight)
  rw [hdepth, hfolder, hpaths] at hsame
  refine ⟨by decide +kernel, hfolder, ?_⟩
  rw [hsame]
  decide +kernel

/-- A file beside the way to a missing folder has a say, although it does not lie above the
analyzer's folder. -/
theorem left_folder_contributes :
    let t : FileTree :=
      { root := .folder
          [("b", .folder [("nsdepcop.toml", .file [] 0)]), ("nsdepcop.toml", .file [] 0)] }
    let a := Analyzer.openFolder t.files ⟨"/b/../missing"⟩ (some 4)
    a.folder = ⟨"/missing"⟩ ∧
      a.hierarchy.paths =
        [⟨"/nsdepcop.toml"⟩, ⟨"/b/nsdepcop.toml"⟩, ⟨"/b/../nsdepcop.toml"⟩] ∧
      a.hierarchy.paths.map Path.parts ≠ (policyPaths t a.folder 4).map Path.parts := by
  intro t a
  have hpaths : policyPaths t ⟨"/missing"⟩ 4 = [⟨"/nsdepcop.toml"⟩] := by decide +kernel
  have hfolder : a.folder = ⟨"/missing"⟩ := by decide +kernel
  have hopened : a.hierarchy.paths =
      [⟨"/nsdepcop.toml"⟩, ⟨"/b/nsdepcop.toml"⟩, ⟨"/b/../nsdepcop.toml"⟩] := by
    decide +kernel
  refine ⟨hfolder, hopened, ?_⟩
  rw [hfolder, hopened, hpaths]
  simp

end NamespacePolicy.Proofs.ProjectFolder
