import NamespacePolicy.Proofs.Merge
import NamespacePolicy.Proofs.Refresh

/-!
What a chain of levels says.  Levels are merged from the outermost to the innermost one and the
first that failed ends this; here their state is said of the chain as a whole.  After a refresh
the chain is made of the files that were found, each read now or kept since it could be used.
-/

namespace NamespacePolicy.Proofs.LevelChain

open Discovery Hierarchy Merge Refresh

/-- What some files say together, of which the outermost one comes first.  It is an error if any of
them failed; otherwise the innermost file that says so decides whether anything is checked. -/
inductive Yields : List (Except PolicyError Draft) → PolicyState → Prop
  | noFile : Yields [] .noFile
  | failed {before after : List (Except PolicyError Draft)} {e : PolicyError}
      (hbefore : ∀ said ∈ before, said.isOk = true) :
      Yields (before ++ .error e :: after) (.failed e)
  | disabled {drafts : List Draft} (hlast : lastGiven (·.enabled) drafts = some false) :
      Yields (drafts.map .ok) .disabled
  | enabled {drafts : List Draft} (hdrafts : drafts ≠ [])
      (hlast : lastGiven (·.enabled) drafts ≠ some false) :
      Yields (drafts.map .ok) (.enabled (drafts.foldl Draft.combine .empty).complete)

theorem mergeLevels_of_ok {levels : List Level} {drafts : List Draft}
    (h : levels.map (·.draft) = drafts.map .ok) (merged : Draft) :
    mergeLevels merged levels =
      let policy := (drafts.foldl Draft.combine merged).complete
      if policy.enabled then .enabled policy else .disabled := by
  induction drafts generalizing levels merged with
  | nil =>
      obtain rfl : levels = [] := by simpa using h
      rfl
  | cons draft drafts ih =>
      obtain ⟨level, rest, rfl, hlevel, hrest⟩ := List.map_eq_cons_iff.mp h
      rw [mergeLevels, hlevel, List.foldl_cons]
      exact ih hrest _

theorem mergeLevels_of_failed {levels : List Level} {before after : List (Except PolicyError Draft)}
    {e : PolicyError} (h : levels.map (·.draft) = before ++ .error e :: after)
    (hbefore : ∀ said ∈ before, said.isOk = true) (merged : Draft) :
    mergeLevels merged levels = .failed e := by
  induction before generalizing levels merged with
  | nil =>
      obtain ⟨level, rest, rfl, hlevel, -⟩ := List.map_eq_cons_iff.mp h
      rw [mergeLevels, hlevel]
  | cons said before ih =>
      obtain ⟨level, rest, rfl, hlevel, hrest⟩ := List.map_eq_cons_iff.mp h
      obtain ⟨hsaid, hrestBefore⟩ := List.forall_mem_cons.mp hbefore
      cases said with
      | error _ => simp [Except.isOk, Except.toBool] at hsaid
      | ok draft =>
          rw [mergeLevels, hlevel]
          exact ih hrest hrestBefore _

theorem complete_foldl_enabled (drafts : List Draft) :
    (drafts.foldl Draft.combine .empty).complete.enabled =
      (lastGiven (·.enabled) drafts).getD true :=
  (isMergeOf_self drafts).enabled

theorem stateOfLevels_of_ne_nil {levels : List Level} (h : levels.map (·.draft) ≠ []) :
    stateOfLevels levels = mergeLevels .empty levels := by
  have hlevels : ¬ (levels.isEmpty = true) := by
    rw [List.isEmpty_iff]
    rintro rfl
    exact h rfl
  exact if_neg hlevels

theorem stateOfLevels_of_ok {levels : List Level} {drafts : List Draft} (hdrafts : drafts ≠ [])
    (h : levels.map (·.draft) = drafts.map .ok) :
    stateOfLevels levels =
      if (lastGiven (·.enabled) drafts).getD true then
        .enabled (drafts.foldl Draft.combine .empty).complete
      else .disabled := by
  have hne : levels.map (·.draft) ≠ [] := by
    rw [h, Ne, List.map_eq_nil_iff]
    exact hdrafts
  rw [stateOfLevels_of_ne_nil hne, mergeLevels_of_ok h, ← complete_foldl_enabled]

theorem stateOfLevels_of_yields {levels : List Level} {state : PolicyState}
    (h : Yields (levels.map (·.draft)) state) : stateOfLevels levels = state := by
  generalize hchain : levels.map (·.draft) = chain at h
  cases h with
  | noFile =>
      obtain rfl := List.map_eq_nil_iff.mp hchain
      rfl
  | failed hbefore =>
      rw [stateOfLevels_of_ne_nil (by simp [hchain]), mergeLevels_of_failed hchain hbefore]
  | @disabled drafts hlast =>
      have hdrafts : drafts ≠ [] := by
        rintro rfl
        simp [lastGiven] at hlast
      rw [stateOfLevels_of_ok hdrafts hchain, hlast]
      rfl
  | @enabled drafts hdrafts hlast =>
      have henabled : (lastGiven (·.enabled) drafts).getD true = true := by
        cases hgiven : lastGiven (·.enabled) drafts with
        | none => rfl
        | some value =>
            rw [hgiven] at hlast
            simpa using hlast
      rw [stateOfLevels_of_ok hdrafts hchain, if_pos henabled]

theorem ok_or_failed (chain : List (Except PolicyError Draft)) :
    (∃ drafts : List Draft, chain = drafts.map .ok) ∨
      ∃ before e after, chain = before ++ .error e :: after ∧
        ∀ said ∈ before, said.isOk = true := by
  induction chain with
  | nil => exact .inl ⟨[], rfl⟩
  | cons said chain ih =>
      cases said with
      | error e => exact .inr ⟨[], e, chain, rfl, by simp⟩
      | ok draft =>
          rcases ih with ⟨drafts, rfl⟩ | ⟨before, e, after, rfl, hbefore⟩
          · exact .inl ⟨draft :: drafts, rfl⟩
          · exact .inr ⟨.ok draft :: before, e, after, rfl, List.forall_mem_cons.mpr ⟨rfl, hbefore⟩⟩

theorem exists_yields (chain : List (Except PolicyError Draft)) : ∃ state, Yields chain state := by
  rcases ok_or_failed chain with ⟨drafts, rfl⟩ | ⟨before, e, after, rfl, hbefore⟩
  · by_cases hdrafts : drafts = []
    · subst hdrafts
      exact ⟨_, .noFile⟩
    · by_cases hlast : lastGiven (·.enabled) drafts = some false
      · exact ⟨_, .disabled hlast⟩
      · exact ⟨_, .enabled hdrafts hlast⟩
  · exact ⟨_, .failed hbefore⟩

theorem stateOfLevels_eq_iff_yields (levels : List Level) (state : PolicyState) :
    stateOfLevels levels = state ↔ Yields (levels.map (·.draft)) state := by
  constructor
  · rintro rfl
    obtain ⟨state, hstate⟩ := exists_yields (levels.map (·.draft))
    rwa [stateOfLevels_of_yields hstate]
  · exact stateOfLevels_of_yields

/-- The level of a file that was found.  It was read now, or it is an earlier one that could be
used. -/
structure Stands (files : Files) (earlier : List Level) (found : Path × Fingerprint)
    (level : Level) : Prop where
  path : level.path.same found.1 = true
  fingerprint : level.fingerprint = found.2
  draft : level.draft = files.draft found.1 ∨ level ∈ earlier ∧ level.draft.isOk = true

section Stands

variable {files : Files} {earlier : List Level}

theorem stands_of_isCurrent {found : Path × Fingerprint} {level : Level} (hlevel : level ∈ earlier)
    (h : level.isCurrent found.1 found.2 = true) : Stands files earlier found level := by
  simp only [Level.isCurrent, Bool.and_eq_true, decide_eq_true_eq] at h
  obtain ⟨⟨hok, hpath⟩, hfingerprint⟩ := h
  exact ⟨hpath, hfingerprint, .inr ⟨hlevel, hok⟩⟩

theorem stands_load (found : Path × Fingerprint) :
    Stands files earlier found (load files found.1 found.2) :=
  ⟨(same_iff ..).mpr rfl, rfl, .inl rfl⟩

theorem areCurrent_eq_true_iff (found : List (Path × Fingerprint)) (levels : List Level) :
    areCurrent found levels = true ↔
      List.Forall₂ (fun f level => level.isCurrent f.1 f.2 = true) found levels := by
  induction found generalizing levels with
  | nil => cases levels <;> simp [areCurrent]
  | cons f found ih =>
      cases levels with
      | nil => simp [areCurrent]
      | cons level levels => rw [areCurrent, Bool.and_eq_true, ih, List.forall₂_cons]

theorem stands_of_areCurrent {found : List (Path × Fingerprint)} {levels : List Level}
    (hlevels : levels ⊆ earlier) (h : areCurrent found levels = true) :
    List.Forall₂ (Stands files earlier) found levels := by
  rw [areCurrent_eq_true_iff] at h
  induction h with
  | nil => exact .nil
  | cons hlevel _ ih =>
      obtain ⟨hmem, hlevels⟩ := List.cons_subset.mp hlevels
      exact .cons (stands_of_isCurrent hmem hlevel) (ih hlevels)

theorem stands_levelsOf {others : List Level} (hothers : others ⊆ earlier)
    (found : List (Path × Fingerprint)) :
    List.Forall₂ (Stands files earlier) found (levelsOf files others found) := by
  induction found generalizing others with
  | nil => exact .nil
  | cons f found ih =>
      rw [levelsOf]
      cases htake : takeCurrent? others f.1 f.2 with
      | none => exact .cons (stands_load f) (ih hothers)
      | some taken =>
          obtain ⟨level, rest⟩ := taken
          obtain ⟨hmem, hcurrent, hrest⟩ := of_takeCurrent? htake
          have hstands : Stands files earlier f level :=
            stands_of_isCurrent (hothers hmem) hcurrent
          exact .cons hstands (ih (List.Subset.trans hrest hothers))

theorem stands_refresh (h : Hierarchy) (files : Files) :
    List.Forall₂ (Stands files h.levels) (discover files h.folder h.depth)
      (h.refresh files).1.levels := by
  rw [Hierarchy.refresh]
  split
  · next hcurrent =>
    rw [Bool.and_eq_true] at hcurrent
    exact stands_of_areCurrent (List.Subset.refl _) hcurrent.2
  · exact stands_levelsOf (List.Subset.refl _) _

end Stands

theorem refresh_state {h : Hierarchy} (hstate : h.loaded = true → h.state = stateOfLevels h.levels)
    (files : Files) : (h.refresh files).1.state = stateOfLevels (h.refresh files).1.levels := by
  rw [Hierarchy.refresh]
  split
  · next hcurrent =>
    rw [Bool.and_eq_true] at hcurrent
    exact hstate hcurrent.1
  · rfl

end NamespacePolicy.Proofs.LevelChain
