import NamespacePolicy.Proofs.Normalization
import NamespacePolicy.Proofs.ProjectFolder

/-!
Excluded files under different spellings of the project folder.  Names below the folder mean the
same file whether they are given alone or after a spelling of the folder.  A file that is missing is
looked for where the spelling leads once it was cleaned up, so there cleaning up must not change
where the spelling leads.
-/

namespace NamespacePolicy.Proofs.Exclusion

open NamespacePolicy.Path Paths Spelling Normalization ProjectFolder Walks

theorem parts_ofNames {names : List String} (h : Plain names) :
    (ofNames names).parts = .root :: names.map .name :=
  parts_ofParts (List.forall_mem_map.mpr h)

theorem within?_of_parts {file folder : Path} {rest : List Part}
    (h : file.parts = folder.parts ++ rest) : file.within? folder = some (ofParts rest) := by
  rw [within?, h, if_pos (List.isPrefixOf_iff_prefix.mpr (List.prefix_append _ _)), List.drop_left]

/-- The path goes down through the given names, and does nothing else. -/
def GoesDown (p : Path) (names : List String) : Prop := p.parts = names.map .name

section GoesDown

variable {r : Path} {names : List String} (h : GoesDown r names)

include h

theorem GoesDown.isAbsolute_eq_false : r.isAbsolute = false := by
  rw [Bool.eq_false_iff]
  intro habsolute
  rw [isAbsolute_iff_head?, h] at habsolute
  cases names <;> simp at habsolute

theorem GoesDown.filterMap_pieces : r.pieces.filterMap part? = names.map .name := by
  obtain ⟨moves, -, hmoves, ⟨-, hparts⟩ | ⟨-, hparts | hparts⟩⟩ := exists_moves r
  · rw [h] at hparts
    cases names <;> simp at hparts
  · rw [hmoves, ← hparts, h]
  · rw [h] at hparts
    cases names <;> simp at hparts

theorem GoesDown.plain : Plain names := by
  intro name hname
  refine isMove_of_mem_filterMap (List.Subset.refl r.pieces) ?_
  rw [h.filterMap_pieces]
  exact List.mem_map_of_mem hname

theorem GoesDown.normalized_eq : r.normalized = ofParts (names.map .name) := by
  have hups : UpsFirst (names.map .name) := ⟨0, names, rfl⟩
  rw [normalized, h]
  exact congrArg ofParts (folded_of_upsFirst hups)

/-- Going down from an absolute path adds the names to its parts. -/
theorem GoesDown.parts_join {p : Path} (hp : p.isAbsolute = true) :
    (p.join r).parts = p.parts ++ names.map .name := by
  cases hpieces : p.pieces with
  | nil => exact absurd hpieces (Separation.pieces_ne_nil _ _)
  | cons first rest =>
      obtain ⟨rfl, hrest⟩ := (isAbsolute_iff hpieces).mp hp
      have hr : r.pieces ≠ [] := Separation.pieces_ne_nil _ _
      rw [← h.filterMap_pieces, parts_eq, parts_eq, hpieces, partsOf, leading_of_root hrest]
      rcases pieces_join_of_relative h.isAbsolute_eq_false p with
        ⟨before, hbefore, hjoin⟩ | ⟨-, hjoin⟩
      · rw [hpieces] at hbefore
        rcases List.cons_eq_append_iff.mp hbefore with ⟨-, hone⟩ | ⟨others, rfl, rfl⟩
        · exact absurd (List.cons.inj hone).2.symm hrest
        · rw [hjoin, List.cons_append, partsOf, leading_of_root (by simp [hr])]
          simp [part?]
      · rw [hjoin, hpieces, List.cons_append, partsOf, leading_of_root (by simp [hr])]
        simp

theorem GoesDown.parts_normalized_join {p : Path} (hp : p.isAbsolute = true) :
    (p.join r).normalized.parts = p.normalized.parts ++ names.map .name := by
  obtain ⟨-, -, -, -, -, hjoin, -⟩ := exists_normalized (p.join r)
  obtain ⟨-, -, -, -, -, hfolder, -⟩ := exists_normalized p
  rw [hjoin, hfolder, h.parts_join hp, List.foldl_append, foldl_fold_names, List.reverse_append,
    List.reverse_reverse]

end GoesDown

/-- `folder` spells an existing folder, and `file` goes down from there to `last`, past no links. -/
structure LiesBelow (t : FileTree) (folder file : Path) (names between : List String)
    (last : String) : Prop where
  isAbsolute : folder.isAbsolute = true
  leads : t.existing? folder = some names
  goesDown : GoesDown file (between ++ [last])
  isFolder : IsFolder t.root (names ++ between)
  notLink : ∀ target, t.root.at? (names ++ between ++ [last]) ≠ some (.link target)

section LiesBelow

variable {t : FileTree} {folder file : Path} {names between : List String} {last : String}
  (h : LiesBelow t folder file names between last)

include h

theorem LiesBelow.isAbsolute_join : (folder.join file).isAbsolute = true :=
  isAbsolute_of_parts_append h.isAbsolute (h.goesDown.parts_join h.isAbsolute)

theorem LiesBelow.plain : Plain (names ++ between ++ [last]) := by
  rw [List.append_assoc]
  exact plain_append.mpr ⟨plain_of_existing? h.isAbsolute h.leads, h.goesDown.plain⟩

/-- No link stands where the names lead on the way down. -/
theorem LiesBelow.at?_ne_link {before : List String} (hbefore : before <+: between ++ [last])
    (target : String) : t.root.at? (names ++ before) ≠ some (.link target) := by
  rcases List.prefix_concat_iff.mp hbefore with rfl | ⟨after, rfl⟩
  · rw [← List.append_assoc]
    exact h.notLink target
  · have hfolder := h.isFolder
    rw [← List.append_assoc] at hfolder
    obtain ⟨entries, hentries⟩ := isFolder_of_append hfolder
    rw [hentries]
    simp

/-- An existing file stands at the end of the names. -/
theorem LiesBelow.eq_of_existing? {found : List String}
    (hfound : t.existing? (folder.join file) = some found) :
    found = names ++ between ++ [last] := by
  obtain ⟨left, hfolder⟩ := leads_of_existing? h.isAbsolute h.leads
  obtain ⟨less, hfile⟩ := leads_of_existing? h.isAbsolute_join hfound
  rw [map_text_tail_of_parts h.isAbsolute (h.goesDown.parts_join h.isAbsolute)] at hfile
  have hwalk := hfile.walk_eq
  rw [hfolder.walk_append] at hwalk
  obtain ⟨enough, hdown⟩ := exists_leads hwalk
  rw [List.append_assoc]
  exact hdown.eq_append h.goesDown.plain fun before hbefore target => h.at?_ne_link hbefore target

/-- Where cleaning up the folder does not change where it leads, the folder of a file is found by
the path that was cleaned up. -/
theorem LiesBelow.exists_parent_normalized
    (hcleaned : t.existing? folder.normalized = some names) :
    ∃ parent, (folder.join file).normalized.parent? = some parent ∧
      t.existing? parent = some (names ++ between) ∧
      (folder.join file).normalized.fileName? = some last := by
  have habsolute : folder.normalized.isAbsolute = true :=
    (isAbsolute_normalized folder).trans h.isAbsolute
  have hparts := h.goesDown.parts_normalized_join h.isAbsolute
  rw [List.map_append, List.map_singleton, ← List.append_assoc] at hparts
  cases hparent : (folder.join file).normalized.parent? with
  | none =>
      rw [parent?_eq_none_iff, hparts] at hparent
      simp [List.append_eq_singleton_iff] at hparent
  | some parent =>
      obtain ⟨part, hpart⟩ := parts_parent hparent
      rw [hparts] at hpart
      obtain ⟨hinit, -⟩ := List.append_inj' hpart rfl
      have hbetween : Plain between := (plain_append.mp h.goesDown.plain).1
      refine ⟨parent, rfl, ?_, ?_⟩
      · exact existing?_of_parts_append habsolute hcleaned hbetween h.isFolder hinit.symm
      · rw [fileName?, hparts, List.getLast?_concat]

end LiesBelow

/-- Cleaning up the path does not change where it leads. -/
def LeadsAlike (t : FileTree) (p : Path) : Prop := t.existing? p.normalized = t.existing? p

section LeadsAlike

variable {t : FileTree} {p : Path} {names : List String} (hp : p.isAbsolute = true)

include hp

theorem leadsAlike_of_isStraight (hstraight : IsStraight p) (h : t.existing? p = some names)
    (hfolder : IsFolder t.root names) : LeadsAlike t p := by
  rw [← List.append_nil names] at hfolder
  rw [LeadsAlike, h, existing?_of_parts_append hp h (List.forall_mem_nil _) hfolder,
    List.append_nil]
  rw [parts_normalized hp hstraight]
  exact (List.append_nil _).symm

/-- Going up again is harmless on a way without links. -/
theorem leadsAlike_of_reaches (h : Reaches t.root [] p.pieces names) : LeadsAlike t p := by
  have hnormalized : p.normalized.isAbsolute = true := (isAbsolute_normalized p).trans hp
  have hleft := (existing?_eq_some_iff hnormalized).mpr (h.normalized.walk_eq FileTree.maxLinks)
  have hright := (existing?_eq_some_iff hp).mpr (h.walk_eq FileTree.maxLinks)
  exact hleft.trans hright.symm

end LeadsAlike

section Matched

variable {t : FileTree} {folder file : Path} {names between : List String} {last : String}
  (h : LiesBelow t folder file names between last)
  (hspelled : (t.existing? (folder.join file)).isSome ∨ LeadsAlike t folder)

include h hspelled

theorem LiesBelow.parts_resolveFile :
    (resolveFile t.files (folder.join file)).parts =
      .root :: (names ++ between ++ [last]).map .name := by
  have hplain := h.plain
  cases hfound : t.existing? (folder.join file) with
  | some found =>
      have hresolved : resolveFile t.files (folder.join file) = ofNames found := by
        simp [resolveFile, FileTree.files, hfound]
      rw [hresolved, h.eq_of_existing? hfound, parts_ofNames hplain]
  | none =>
      have hcleaned : t.existing? folder.normalized = some names := by
        have halike : LeadsAlike t folder := hspelled.resolve_left (by simp [hfound])
        rw [← h.leads]
        exact halike
      obtain ⟨parent, hparent, hnames, hlast⟩ := h.exists_parent_normalized hcleaned
      have hresolved : resolveFile t.files (folder.join file) =
          (ofNames (names ++ between)).join ⟨last⟩ := by
        simp [resolveFile, FileTree.files, hfound, hparent, hnames, hlast]
      obtain ⟨hfolder, hname⟩ := plain_append.mp hplain
      obtain ⟨hpart, hslash⟩ := plain_singleton.mp hname
      rw [hresolved, parts_join hpart hslash, parts_ofNames hfolder]
      simp

theorem LiesBelow.matchedPath_join :
    matchedPath t.files (ofNames names) (folder.join file) =
      matchedPath t.files (ofNames names) file := by
  have hfolder := (plain_append.mp (plain_append.mp h.plain).1).1
  have hparts : (resolveFile t.files (folder.join file)).parts =
      (ofNames names).parts ++ (between ++ [last]).map .name := by
    rw [h.parts_resolveFile hspelled, parts_ofNames hfolder, List.append_assoc, List.map_append]
    rfl
  rw [matchedPath, matchedPath, if_pos h.isAbsolute_join,
    if_neg (by simp [h.goesDown.isAbsolute_eq_false]), h.goesDown.normalized_eq]
  simp only [within?_of_parts hparts, Option.getD_some]

end Matched

/-- A file below the project folder is excluded under the path that goes on from a spelling of the
folder if and only if it is excluded under its path from the folder, provided that the file is there
or that cleaning up the spelling does not change where it leads. -/
theorem isExcluded_join_eq {t : FileTree} {folder file : Path} {names between : List String}
    {last : String} (h : LiesBelow t folder file names between last)
    (hspelled : (t.existing? (folder.join file)).isSome ∨ LeadsAlike t folder)
    (depth : Option Nat) (p : Policy) (line column line' column' : Nat) :
    let a := Analyzer.openFolder t.files folder depth
    isExcluded t.files a.folder p (some ⟨(folder.join file).text, line, column⟩) =
      isExcluded t.files a.folder p (some ⟨file.text, line', column'⟩) := by
  intro a
  have hfolder : a.folder = ofNames names := by
    have hopened : a.folder = _ := folder_openFolder t.files folder depth
    rw [hopened]
    simp [FileTree.files, h.leads]
  rw [hfolder, isExcluded, isExcluded, h.matchedPath_join hspelled]

/-- A generated file that is missing, in a folder that is found through a link and on a way that
leaves another folder again. -/
theorem generated_file_excluded :
    let t : FileTree :=
      { root := .folder
          [("a", .folder [("proj", .folder [("Generated", .folder [])])]),
            ("b", .folder []), ("l", .link "a/proj")] }
    let p : Policy :=
      { excluded := [⟨"**/X.cs", [.anyComponents, .char 'X', .char '.', .char 'c', .char 's']⟩] }
    let linked := Analyzer.openFolder t.files ⟨"/l/."⟩ (some 1)
    let again := Analyzer.openFolder t.files ⟨"/b/../a/proj"⟩ (some 1)
    (LiesBelow t ⟨"/l/."⟩ ⟨"Generated/X.cs"⟩ ["a", "proj"] ["Generated"] "X.cs" ∧
        LeadsAlike t ⟨"/l/."⟩ ∧
        isExcluded t.files linked.folder p (some ⟨"/l/./Generated/X.cs", 1, 1⟩) = true) ∧
      LiesBelow t ⟨"/b/../a/proj"⟩ ⟨"Generated/X.cs"⟩ ["a", "proj"] ["Generated"] "X.cs" ∧
        LeadsAlike t ⟨"/b/../a/proj"⟩ ∧
        isExcluded t.files again.folder p (some ⟨"/b/../a/proj/Generated/X.cs", 1, 1⟩) = true := by
  intro t p linked again
  have hbelow : ∀ folder : Path, folder.isAbsolute = true →
      t.existing? folder = some ["a", "proj"] →
      LiesBelow t folder ⟨"Generated/X.cs"⟩ ["a", "proj"] ["Generated"] "X.cs" :=
    fun folder habsolute hleads =>
      { isAbsolute := habsolute
        leads := hleads
        goesDown := by rw [GoesDown]; decide +kernel
        isFolder := ⟨[], rfl⟩
        notLink := fun target h => absurd h (by simp [t, FileNode.at?, FileNode.entry?]) }
  have hlinked := hbelow ⟨"/l/."⟩ (by decide) (by decide +kernel)
  have hback := hbelow ⟨"/b/../a/proj"⟩ (by decide) (by decide +kernel)
  have hstraight : IsStraight ⟨"/l/."⟩ := by
    intro before name after h
    have hup : Path.Part.up ∈ (Path.mk "/l/.").parts := by simp [h]
    exact absurd hup (by decide +kernel)
  have halike : LeadsAlike t ⟨"/l/."⟩ :=
    leadsAlike_of_isStraight (by decide) hstraight hlinked.leads ⟨_, rfl⟩
  have hreaches : Reaches t.root [] (Path.mk "/b/../a/proj").pieces ["a", "proj"] := by
    rw [Reaches]; decide +kernel
  have halike' : LeadsAlike t ⟨"/b/../a/proj"⟩ := leadsAlike_of_reaches (by decide) hreaches
  refine ⟨⟨hlinked, halike, ?_⟩, hback, halike', ?_⟩
  · exact (isExcluded_join_eq hlinked (.inr halike) (some 1) p 1 1 1 1).trans (by decide +kernel)
  · exact (isExcluded_join_eq hback (.inr halike') (some 1) p 1 1 1 1).trans (by decide +kernel)

/-- A link is left again, so cleaning up leads elsewhere and the missing file is not excluded. -/
theorem left_link_not_excluded :
    let t : FileTree :=
      { root := .folder
          [("a", .folder [("proj", .folder []), ("b", .folder [])]), ("l", .link "a/b")] }
    let a := Analyzer.openFolder t.files ⟨"/l/../proj"⟩ (some 1)
    let p : Policy := { excluded := [⟨"X.cs", [.char 'X', .char '.', .char 'c', .char 's']⟩] }
    LiesBelow t ⟨"/l/../proj"⟩ ⟨"X.cs"⟩ ["a", "proj"] [] "X.cs" ∧
      p.excluded.map Except.ok = [Glob.parse "X.cs"] ∧
      isExcluded t.files a.folder p (some ⟨"X.cs", 1, 1⟩) = true ∧
      isExcluded t.files a.folder p
        (some ⟨((Path.mk "/l/../proj").join ⟨"X.cs"⟩).text, 1, 1⟩) = false := by
  intro t a p
  refine ⟨?_, by decide +kernel, by decide +kernel, by decide +kernel⟩
  exact
    { isAbsolute := by decide
      leads := by decide +kernel
      goesDown := by rw [GoesDown]; decide +kernel
      isFolder := ⟨[], rfl⟩
      notLink := fun target h => absurd h (by simp [t, FileNode.at?, FileNode.entry?]) }

end NamespacePolicy.Proofs.Exclusion
