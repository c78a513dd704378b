import Mathlib.Data.List.Forall2
import NamespacePolicy.Proofs.Discovery

/-!
Refreshing a hierarchy again and again.  A hierarchy keeps the levels of files that it need not
read; what it says then is what a new one would say that reads all files as they are now.  This
rests on one assumption: a file that has its fingerprint still holds what was read from it.
-/

namespace NamespacePolicy.Proofs.Refresh

open Discovery Hierarchy

/-- A file that was read and could be used, with what was in it. -/
structure Load where
  path : Path
  fingerprint : Fingerprint
  bytes : List UInt8

def load? (files : Files) (path : Path) (fingerprint : Fingerprint) : Option Load :=
  match files.read path with
  | .ok bytes =>
      if (PolicyFault.parseBytes bytes).isOk then some ⟨path, fingerprint, bytes⟩ else none
  | .error _ => none

/-- The loads while the levels of the files found are made of the earlier ones. -/
def loadsOf (files : Files) : (earlier : List Level) → List (Path × Fingerprint) → List Load
  | _, [] => []
  | earlier, (path, fingerprint) :: found =>
      match takeCurrent? earlier path fingerprint with
      | some (_, others) => loadsOf files others found
      | none => (load? files path fingerprint).toList ++ loadsOf files earlier found

def lastLoad? (loads : List Load) (path : Path) : Option Load :=
  loads.find? (·.path.same path)

/-- A file with the fingerprint of its last load still holds what was read then. -/
def Trusted (files : Files) (loads : List Load) : Prop :=
  ∀ path fingerprint load, files.fingerprint? path = some fingerprint →
    lastLoad? loads path = some load → load.fingerprint = fingerprint →
    files.read path = .ok load.bytes

/-- A hierarchy, the files around it and the loads so far, the newest first. -/
structure Session where
  files : Files
  hierarchy : Hierarchy
  loads : List Load := []

inductive Event where
  /-- Whatever happens to files, folders and links. -/
  | change (files : Files)
  | refresh

namespace Session

def start (folder : Path) (depth : Option Nat) (files : Files) : Session :=
  { files, hierarchy := .ofFolder folder depth }

def newLoads (s : Session) : List Load :=
  let found := discover s.files s.hierarchy.folder s.hierarchy.depth
  if s.hierarchy.loaded && areCurrent found s.hierarchy.levels then []
  else loadsOf s.files s.hierarchy.levels found

def step (s : Session) : Event → Session
  | .change files => { s with files }
  | .refresh =>
      { s with
        hierarchy := (s.hierarchy.refresh s.files).1
        loads := s.newLoads ++ s.loads }

def run (s : Session) (events : List Event) : Session := events.foldl step s

end Session

/-- What a level says was read when its file was last loaded. -/
def Backed (loads : List Load) (level : Level) : Prop :=
  ∀ draft, level.draft = .ok draft →
    ∃ load, lastLoad? loads level.path = some load ∧ load.fingerprint = level.fingerprint ∧
      PolicyFault.parseBytes load.bytes = .ok draft

/-- The hierarchy looks where the original one does, and it says what its levels say, which are
backed by loads. -/
structure Coherent (original : Hierarchy) (s : Session) : Prop where
  folder : s.hierarchy.folder = original.folder
  depth : s.hierarchy.depth = original.depth
  state : s.hierarchy.loaded = true → s.hierarchy.state = stateOfLevels s.hierarchy.levels
  backed : ∀ level ∈ s.hierarchy.levels, Backed s.loads level

structure UpToDate (files : Files) (found : Path × Fingerprint) (level : Level) : Prop where
  path : level.path.parts = found.1.parts
  draft : level.draft = files.draft found.1

theorem draft_eq_ok_iff (files : Files) (path : Path) (draft : Draft) :
    files.draft path = .ok draft ↔
      ∃ bytes, files.read path = .ok bytes ∧ PolicyFault.parseBytes bytes = .ok draft := by
  rw [Files.draft]
  cases files.read path with
  | error cause => simp
  | ok bytes =>
      cases hparse : PolicyFault.parseBytes bytes <;> simp [hparse, Except.mapError]

theorem load?_path {files : Files} {path : Path} {fingerprint : Fingerprint} {load : Load}
    (h : load? files path fingerprint = some load) : load.path = path := by
  rw [load?] at h
  split at h
  · split_ifs at h
    exact congrArg Load.path (Option.some.inj h).symm
  · simp at h

theorem load?_of_draft {files : Files} {path : Path} {draft : Draft}
    (h : files.draft path = .ok draft) (fingerprint : Fingerprint) :
    ∃ bytes, load? files path fingerprint = some ⟨path, fingerprint, bytes⟩ ∧
      PolicyFault.parseBytes bytes = .ok draft := by
  obtain ⟨bytes, hread, hparse⟩ := (draft_eq_ok_iff ..).mp h
  refine ⟨bytes, ?_, hparse⟩
  have hok : (PolicyFault.parseBytes bytes).isOk = true := by rw [hparse]; rfl
  simp only [load?, hread]
  rw [if_pos hok]

theorem same_iff (p q : Path) : p.same q = true ↔ p.parts = q.parts :=
  decide_eq_true_iff

theorem lastLoad?_congr {p q : Path} (h : p.parts = q.parts) (loads : List Load) :
    lastLoad? loads p = lastLoad? loads q := by
  simp only [lastLoad?, Path.same, h]

theorem swapRemove_subset {α : Type} (items : List α) (place : Nat) :
    swapRemove items place ⊆ items := by
  intro item hitem
  rw [swapRemove] at hitem
  split at hitem
  · next last hlast =>
    have hmem : item ∈ items.set place last := List.dropLast_subset _ hitem
    rcases List.mem_or_eq_of_mem_set hmem with hmem | rfl
    · exact hmem
    · exact List.mem_of_getLast? hlast
  · exact absurd hitem List.not_mem_nil

theorem of_takeCurrent? {earlier others : List Level} {path : Path} {fingerprint : Fingerprint}
    {level : Level} (h : takeCurrent? earlier path fingerprint = some (level, others)) :
    level ∈ earlier ∧ level.isCurrent path fingerprint = true ∧ others ⊆ earlier := by
  simp only [takeCurrent?, Option.bind_eq_bind, Option.bind_eq_some_iff, Option.pure_def,
    Option.some.injEq, Prod.mk.injEq] at h
  obtain ⟨place, hplace, found, hfound, rfl, rfl⟩ := h
  obtain ⟨hlt, hcurrent, -⟩ := List.findIdx?_eq_some_iff_getElem.mp hplace
  obtain ⟨hlt', rfl⟩ := List.getElem?_eq_some_iff.mp hfound
  exact ⟨List.getElem_mem _, hcurrent, swapRemove_subset _ _⟩

theorem isCurrent_iff (level : Level) (path : Path) (fingerprint : Fingerprint) :
    level.isCurrent path fingerprint = true ↔
      (∃ draft, level.draft = .ok draft) ∧ level.path.parts = path.parts ∧
        level.fingerprint = fingerprint := by
  rw [Level.isCurrent, Bool.and_eq_true, Bool.and_eq_true, same_iff, decide_eq_true_iff, and_assoc]
  cases level.draft <;> simp [Except.isOk, Except.toBool]

section Current

variable {files : Files} {loads : List Load}

theorem Backed.upToDate {level : Level} {path : Path} {fingerprint : Fingerprint}
    (hbacked : Backed loads level) (htrusted : Trusted files loads)
    (hfound : files.fingerprint? path = some fingerprint)
    (hcurrent : level.isCurrent path fingerprint = true) :
    UpToDate files (path, fingerprint) level := by
  obtain ⟨⟨draft, hdraft⟩, hparts, hfingerprint⟩ := (isCurrent_iff ..).mp hcurrent
  obtain ⟨load, hload, hsame, hparse⟩ := hbacked draft hdraft
  rw [lastLoad?_congr hparts] at hload
  have hread := htrusted path fingerprint load hfound hload (hsame.trans hfingerprint)
  refine ⟨hparts, ?_⟩
  rw [hdraft, eq_comm, draft_eq_ok_iff]
  exact ⟨load.bytes, hread, hparse⟩

theorem upToDate_of_areCurrent {found : List (Path × Fingerprint)} {levels : List Level}
    (htrusted : Trusted files loads) (hfound : ∀ f ∈ found, files.fingerprint? f.1 = some f.2)
    (hbacked : ∀ level ∈ levels, Backed loads level) (h : areCurrent found levels = true) :
    List.Forall₂ (UpToDate files) found levels := by
  induction found generalizing levels with
  | nil =>
      cases levels with
      | nil => exact .nil
      | cons level levels => simp [areCurrent] at h
  | cons f found ih =>
      cases levels with
      | nil => simp [areCurrent] at h
      | cons level levels =>
          rw [areCurrent, Bool.and_eq_true] at h
          have hhead := (hbacked level List.mem_cons_self).upToDate htrusted
            (hfound f List.mem_cons_self) h.1
          have htail := ih (fun g hg => hfound g (List.mem_cons_of_mem _ hg))
            (fun other hother => hbacked other (List.mem_cons_of_mem _ hother)) h.2
          exact .cons hhead htail

theorem upToDate_levelsOf {found : List (Path × Fingerprint)} {earlier : List Level}
    (htrusted : Trusted files loads) (hfound : ∀ f ∈ found, files.fingerprint? f.1 = some f.2)
    (hbacked : ∀ level ∈ earlier, Backed loads level) :
    List.Forall₂ (UpToDate files) found (levelsOf files earlier found) := by
  induction found generalizing earlier with
  | nil => exact .nil
  | cons f found ih =>
      have hfound' : ∀ g ∈ found, files.fingerprint? g.1 = some g.2 :=
        fun g hg => hfound g (List.mem_cons_of_mem _ hg)
      rw [levelsOf]
      cases htake : takeCurrent? earlier f.1 f.2 with
      | none => exact .cons ⟨rfl, rfl⟩ (ih hfound' hbacked)
      | some taken =>
          obtain ⟨level, others⟩ := taken
          obtain ⟨hmem, hcurrent, hothers⟩ := of_takeCurrent? htake
          have hhead := (hbacked level hmem).upToDate htrusted (hfound f List.mem_cons_self)
            hcurrent
          exact .cons hhead (ih hfound' fun other hother => hbacked other (hothers hother))

end Current

theorem Backed.append {loads newer : List Load} {level : Level} (h : Backed loads level)
    (hnewer : ∀ load ∈ newer, load.path.parts ≠ level.path.parts) :
    Backed (newer ++ loads) level := by
  intro draft hdraft
  obtain ⟨load, hload, hrest⟩ := h draft hdraft
  refine ⟨load, ?_, hrest⟩
  have hnone : newer.find? (·.path.same level.path) = none := by
    rw [List.find?_eq_none]
    intro other hother hsame
    exact hnewer other hother ((same_iff ..).mp hsame)
  rw [lastLoad?, List.find?_append, hnone, Option.none_or]
  exact hload

section Files

variable {files : Files}

theorem path_of_mem_loadsOf {found : List (Path × Fingerprint)} {earlier : List Level}
    {load : Load} (h : load ∈ loadsOf files earlier found) : ∃ f ∈ found, load.path = f.1 := by
  induction found generalizing earlier with
  | nil => exact absurd h List.not_mem_nil
  | cons f found ih =>
      rw [loadsOf] at h
      split at h
      · obtain ⟨g, hg, hpath⟩ := ih h
        exact ⟨g, List.mem_cons_of_mem _ hg, hpath⟩
      · rcases List.mem_append.mp h with h | h
        · exact ⟨f, List.mem_cons_self, load?_path (Option.mem_toList.mp h)⟩
        · obtain ⟨g, hg, hpath⟩ := ih h
          exact ⟨g, List.mem_cons_of_mem _ hg, hpath⟩

theorem parts_of_mem_levelsOf {found : List (Path × Fingerprint)} {earlier : List Level}
    {level : Level} (h : level ∈ levelsOf files earlier found) :
    ∃ f ∈ found, level.path.parts = f.1.parts := by
  induction found generalizing earlier with
  | nil => exact absurd h List.not_mem_nil
  | cons f found ih =>
      rw [levelsOf] at h
      split at h
      · next taken others htake =>
        rcases List.mem_cons.mp h with rfl | h
        · obtain ⟨-, hcurrent, -⟩ := of_takeCurrent? htake
          exact ⟨f, List.mem_cons_self, ((isCurrent_iff ..).mp hcurrent).2.1⟩
        · obtain ⟨g, hg, hparts⟩ := ih h
          exact ⟨g, List.mem_cons_of_mem _ hg, hparts⟩
      · rcases List.mem_cons.mp h with rfl | h
        · exact ⟨f, List.mem_cons_self, rfl⟩
        · obtain ⟨g, hg, hparts⟩ := ih h
          exact ⟨g, List.mem_cons_of_mem _ hg, hparts⟩

theorem backed_load (path : Path) (fingerprint : Fingerprint) (loads : List Load) :
    Backed ((load? files path fingerprint).toList ++ loads)
      (Hierarchy.load files path fingerprint) := by
  intro draft hdraft
  obtain ⟨bytes, hload, hparse⟩ := load?_of_draft hdraft fingerprint
  refine ⟨⟨path, fingerprint, bytes⟩, ?_, rfl, hparse⟩
  have hsame : path.same path = true := (same_iff ..).mpr rfl
  rw [hload, Option.toList_some, List.singleton_append, lastLoad?, List.find?_cons_of_pos]
  exact hsame

/-- The levels of files found once each are backed by the loads so far and those that made
them. -/
theorem backed_levelsOf {found : List (Path × Fingerprint)} {earlier : List Level}
    {loads : List Load} (hnodup : (found.map (·.1.parts)).Nodup)
    (hbacked : ∀ level ∈ earlier, Backed loads level) :
    ∀ level ∈ levelsOf files earlier found,
      Backed (loadsOf files earlier found ++ loads) level := by
  induction found generalizing earlier with
  | nil => exact fun level h => absurd h List.not_mem_nil
  | cons f found ih =>
      obtain ⟨hnew, hnodup⟩ := List.nodup_cons.mp hnodup
      -- Neither the levels nor the loads of the other files have the path of `f`.
      have hother : ∀ g ∈ found, g.1.parts ≠ f.1.parts := by
        intro g hg heq
        exact hnew (List.mem_map.mpr ⟨g, hg, heq⟩)
      intro level hlevel
      rw [levelsOf] at hlevel
      rw [loadsOf]
      cases htake : takeCurrent? earlier f.1 f.2 with
      | some taken =>
          obtain ⟨kept, others⟩ := taken
          obtain ⟨hmem, hcurrent, hothers⟩ := of_takeCurrent? htake
          simp only [htake] at hlevel ⊢
          rcases List.mem_cons.mp hlevel with rfl | hlevel
          · have hparts := ((isCurrent_iff ..).mp hcurrent).2.1
            refine (hbacked level hmem).append ?_
            intro load hload heq
            obtain ⟨g, hg, hpath⟩ := path_of_mem_loadsOf hload
            exact hother g hg (by rw [← hpath, heq, hparts])
          · exact ih hnodup (fun other h => hbacked other (hothers h)) level hlevel
      | none =>
          simp only [htake] at hlevel ⊢
          rw [List.append_assoc]
          rcases List.mem_cons.mp hlevel with rfl | hlevel
          · exact backed_load f.1 f.2 _
          · refine (ih hnodup hbacked level hlevel).append ?_
            intro load hload heq
            obtain ⟨g, hg, hparts⟩ := parts_of_mem_levelsOf hlevel
            rw [load?_path (Option.mem_toList.mp hload)] at heq
            exact hother g hg (by rw [heq, hparts])

end Files

section Runs

variable {original : Hierarchy} {s : Session}

theorem coherent_start (folder : Path) (depth : Option Nat) (files : Files) :
    Coherent (.ofFolder folder depth) (.start folder depth files) :=
  ⟨rfl, rfl, fun h => absurd h Bool.false_ne_true, fun _ h => absurd h List.not_mem_nil⟩

/-- Whatever happens, the session stays coherent; nothing is assumed of the files here. -/
theorem Coherent.step (h : Coherent original s) (event : Event) :
    Coherent original (s.step event) := by
  cases event with
  | change files => exact ⟨h.folder, h.depth, h.state, h.backed⟩
  | refresh =>
      simp only [Session.step, Session.newLoads, Hierarchy.refresh]
      split
      · exact ⟨h.folder, h.depth, h.state, h.backed⟩
      · exact ⟨h.folder, h.depth, fun _ => rfl,
          backed_levelsOf (parts_discover_nodup ..) h.backed⟩

theorem Coherent.run (h : Coherent original s) (events : List Event) :
    Coherent original (s.run events) := by
  induction events generalizing s with
  | nil => exact h
  | cons event rest ih => exact ih (h.step event)

theorem Coherent.refresh (h : Coherent original s) (htrusted : Trusted s.files s.loads) :
    List.Forall₂ (UpToDate s.files) (discover s.files original.folder original.depth)
        (s.hierarchy.refresh s.files).1.levels ∧
      (s.hierarchy.refresh s.files).1.state =
        stateOfLevels (s.hierarchy.refresh s.files).1.levels := by
  have hfound : ∀ f ∈ discover s.files original.folder original.depth,
      s.files.fingerprint? f.1 = some f.2 := fun f hf => fingerprint?_of_mem_discover hf
  rw [Hierarchy.refresh, h.folder, h.depth]
  split
  · next hcurrent =>
    rw [Bool.and_eq_true] at hcurrent
    exact ⟨upToDate_of_areCurrent htrusted hfound h.backed hcurrent.2, h.state hcurrent.1⟩
  · exact ⟨upToDate_levelsOf htrusted hfound h.backed, rfl⟩

end Runs

theorem mergeLevels_of_upToDate {files : Files} {found : List (Path × Fingerprint)}
    {levels : List Level} (h : List.Forall₂ (UpToDate files) found levels) (merged : Draft) :
    mergeLevels merged levels =
      mergeLevels merged (found.map fun f => load files f.1 f.2) := by
  induction h generalizing merged with
  | nil => rfl
  | @cons f level _ _ hf _ ih =>
      have hload : (load files f.1 f.2).draft = files.draft f.1 := rfl
      rw [List.map_cons, mergeLevels, mergeLevels, hf.draft, hload]
      cases files.draft f.1 with
      | ok draft => exact ih _
      | error e => rfl

theorem stateOfLevels_of_upToDate {files : Files} {found : List (Path × Fingerprint)}
    {levels : List Level} (h : List.Forall₂ (UpToDate files) found levels) :
    stateOfLevels levels = stateOfLevels (found.map fun f => load files f.1 f.2) := by
  rw [stateOfLevels, stateOfLevels, mergeLevels_of_upToDate h]
  cases h <;> rfl

theorem same_of_upToDate {files : Files} {found : List (Path × Fingerprint)}
    {levels : List Level} (h : List.Forall₂ (UpToDate files) found levels) :
    List.Forall₂ (fun p q => p.same q = true) (levels.map (·.path)) (found.map (·.1)) := by
  induction h with
  | nil => exact .nil
  | cons hf _ ih => exact .cons ((same_iff ..).mpr hf.path) ih

theorem mergeLevels_failed_iff (merged : Draft) (levels : List Level) :
    (∃ e, mergeLevels merged levels = .failed e) ↔
      ∃ level ∈ levels, ∃ e, level.draft = .error e := by
  induction levels generalizing merged with
  | nil =>
      simp only [mergeLevels, List.not_mem_nil, false_and, exists_false, iff_false]
      split <;> simp
  | cons level rest ih =>
      rw [mergeLevels, List.exists_mem_cons_iff]
      split
      · next draft hdraft => simp [hdraft, ih]
      · next e hdraft => simp [hdraft]

theorem stateOfLevels_failed_iff (levels : List Level) :
    (∃ e, stateOfLevels levels = .failed e) ↔
      ∃ level ∈ levels, ∃ e, level.draft = .error e := by
  rw [stateOfLevels]
  cases levels with
  | nil => simp
  | cons level rest => exact mergeLevels_failed_iff .empty (level :: rest)

theorem levelsOf_nil (files : Files) (found : List (Path × Fingerprint)) :
    levelsOf files [] found = found.map fun f => load files f.1 f.2 := by
  induction found with
  | nil => rfl
  | cons f rest ih =>
      have hnone : takeCurrent? [] f.1 f.2 = none := rfl
      rw [levelsOf, hnone, List.map_cons, ← ih]

theorem refresh_ofFolder (folder : Path) (depth : Option Nat) (files : Files) :
    let original := Hierarchy.ofFolder folder depth
    let levels := (discover files original.folder original.depth).map fun f => load files f.1 f.2
    (original.refresh files).1 =
      { original with levels, state := stateOfLevels levels, loaded := true } := by
  intro original levels
  have hlevels : levelsOf files original.levels
      (discover files original.folder original.depth) = levels := levelsOf_nil ..
  simp only [Hierarchy.refresh]
  rw [if_neg (by simp [original, Hierarchy.ofFolder]), hlevels]

/-- Whatever happened to the files and however often the hierarchy was refreshed, after one more
refresh it says what a new hierarchy would say of the files as they are, and it names the same
files.  It says that a file failed just when one of them fails now. -/
theorem refresh_eq_fresh {folder : Path} {depth : Option Nat} {files : Files}
    {events : List Event} {s : Session} (hs : s = (Session.start folder depth files).run events)
    (htrusted : Trusted s.files s.loads) :
    let kept := (s.hierarchy.refresh s.files).1
    let fresh := ((Hierarchy.ofFolder folder depth).refresh s.files).1
    kept.state = fresh.state ∧
      List.Forall₂ (fun p q => p.same q = true) kept.paths fresh.paths ∧
      ((∃ e, kept.state = .failed e) ↔
        ∃ f ∈ discover s.files folder fresh.depth, ∃ e, s.files.draft f.1 = .error e) := by
  have hcoherent : Coherent (.ofFolder folder depth) s := by
    rw [hs]
    exact (coherent_start folder depth files).run events
  obtain ⟨hlevels, hstate⟩ := hcoherent.refresh htrusted
  intro kept fresh
  have hfresh : fresh = _ := refresh_ofFolder folder depth s.files
  have hkept : kept.state = fresh.state := by
    rw [hstate, stateOfLevels_of_upToDate hlevels, hfresh]
  refine ⟨hkept, ?_, ?_⟩
  · rw [Hierarchy.paths, Hierarchy.paths, hfresh, List.map_map]
    exact same_of_upToDate hlevels
  · rw [hkept, hfresh, stateOfLevels_failed_iff]
    simp only [List.mem_map, exists_exists_and_eq_and]
    rfl

/-- A file that cannot be read at first is read later, although its fingerprint is the same; the
file above it is kept meanwhile. -/
theorem repaired_file_refresh :
    let outer : Path := ⟨"/nsdepcop.toml"⟩
    let inner : Path := ⟨"/a/nsdepcop.toml"⟩
    let repaired : Files :=
      { canonical? := some
        fingerprint? := fun p => if p.same outer || p.same inner then some ⟨some 0, 0⟩ else none
        read := fun _ => .ok [] }
    let broken : Files :=
      { repaired with read := fun p => if p.same inner then .error .denied else .ok [] }
    let s := (Session.start ⟨"/a"⟩ none broken).run [.refresh, .change repaired]
    let kept := (s.hierarchy.refresh s.files).1
    let fresh := ((Hierarchy.ofFolder ⟨"/a"⟩ none).refresh s.files).1
    s.hierarchy.state = .failed ⟨inner, .unreadable .denied⟩ ∧
      s.loads.map (·.path) = [outer] ∧
      Trusted s.files s.loads ∧
      kept.state = fresh.state ∧
      List.Forall₂ (fun p q => p.same q = true) kept.paths fresh.paths ∧
      ¬ ∃ e, kept.state = .failed e := by
  intro outer inner repaired broken s kept fresh
  have hbytes : s.loads.map (·.bytes) = [[]] := by decide +kernel
  have htrusted : Trusted s.files s.loads := by
    intro path fingerprint load hfingerprint hload hsame
    have hmem : load.bytes ∈ s.loads.map (·.bytes) :=
      List.mem_map_of_mem (List.mem_of_find?_eq_some hload)
    rw [hbytes, List.mem_singleton] at hmem
    rw [hmem]
    rfl
  have hs : s = (Session.start ⟨"/a"⟩ none broken).run [.refresh, .change repaired] := rfl
  obtain ⟨hstate, hpaths, -⟩ := refresh_eq_fresh hs htrusted
  refine ⟨by decide +kernel, by decide +kernel, htrusted, hstate, hpaths, ?_⟩
  have hread : fresh.state = .enabled {} := by decide +kernel
  rw [hstate, hread]
  simp

end NamespacePolicy.Proofs.Refresh
