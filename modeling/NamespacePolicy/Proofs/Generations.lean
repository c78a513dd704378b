import NamespacePolicy.Analyzer
import NamespacePolicy.Proofs.LevelChain

/-!
Generations of an analyzer.  Whatever happens to the files and whatever the analyzer is asked, its
generation goes with the state of its hierarchy, and it only changes with a refresh that found a
change.  Once the files have been looked at, refreshing again finds one only if a file failed.
-/

namespace NamespacePolicy.Proofs.Generations

open Hierarchy LevelChain

inductive Call where
  | refresh
  | analyze (engines : Engines) (occurrences : List Occurrence)
  | analyzeAssemblies (dependencies : List AssemblyDependency)
  | unusedIssues
  | resetUsage

inductive Event where
  /-- Whatever happens to files, folders and links. -/
  | change (files : Files)
  | call (call : Call)

/-- An analyzer, the files around it, and how many of its refreshes found a change since it was
opened. -/
structure Session where
  files : Files
  analyzer : Analyzer
  renewals : Nat := 0

namespace Session

def start (folder : Path) (depth : Option Nat) (files : Files) : Session :=
  { files, analyzer := .openFolder files folder depth }

def call (s : Session) : Call → Session
  | .refresh =>
      let (analyzer, renewed) := s.analyzer.refresh s.files
      { s with analyzer, renewals := s.renewals + renewed.toNat }
  | .analyze engines occurrences =>
      { s with analyzer := (s.analyzer.analyze engines s.files occurrences).2 }
  | .analyzeAssemblies dependencies =>
      { s with analyzer := (s.analyzer.analyzeAssemblies dependencies).2 }
  | .unusedIssues => s
  | .resetUsage => { s with analyzer := s.analyzer.resetUsage }

def step (s : Session) : Event → Session
  | .change files => { s with files }
  | .call call => s.call call

def run (s : Session) (events : List Event) : Session := events.foldl step s

def calls (s : Session) (calls : List Call) : Session := calls.foldl call s

end Session

/-- The generation has the state of the hierarchy, a validator for the policy if there is one, and
the number of refreshes that found a change, the one when the analyzer was opened included. -/
structure Consistent (s : Session) : Prop where
  merged : s.analyzer.hierarchy.state = stateOfLevels s.analyzer.hierarchy.levels
  state : s.analyzer.generation.state = s.analyzer.hierarchy.state
  policy : s.analyzer.generation.validator.map (·.policy) = s.analyzer.hierarchy.state.policy?
  number : s.analyzer.generation.number = 1 + s.renewals

/-- Nothing is remembered, counted or marked yet. -/
def Unasked (v : Validator) : Prop := v = { policy := v.policy }

/-- Another refresh now would find a change just when there is an error. -/
def RenewsOnlyFailure (s : Session) : Prop :=
  (s.analyzer.refresh s.files).2 = true ↔ ∃ e, s.analyzer.state = .failed e

def IsOf (found : Path × Fingerprint) (level : Level) : Prop :=
  level.path.same found.1 = true ∧ level.fingerprint = found.2

/-- The files of a hierarchy were looked for, and these are the ones that are there now. -/
structure Seen (files : Files) (h : Hierarchy) : Prop where
  loaded : h.loaded = true
  state : h.state = stateOfLevels h.levels
  levels : List.Forall₂ IsOf (discover files h.folder h.depth) h.levels

theorem checkType_policy (v : Validator) (d : TypeDependency) :
    (v.checkType d).2.policy = v.policy := by
  rw [Validator.checkType]
  split <;> rfl

theorem checkAssembly_policy (v : Validator) (d : AssemblyDependency) :
    (v.checkAssembly d).2.policy = v.policy := by
  rw [Validator.checkAssembly]
  split <;> rfl

theorem checkOccurrences_policy (isExcluded : Option Location → Bool) (reported : Nat)
    (v : Validator) (occurrences : List Occurrence) :
    (checkOccurrences isExcluded reported v occurrences).2.policy = v.policy := by
  induction occurrences generalizing reported v with
  | nil => rfl
  | cons o rest ih =>
      have hcheck := checkType_policy v o.dependency
      simp only [checkOccurrences]
      split
      · exact ih reported v
      · split
        · exact (ih reported _).trans hcheck
        · split
          · exact hcheck
          · exact (ih (reported + 1) _).trans hcheck

theorem checkAssemblies_policy (v : Validator) (dependencies : List AssemblyDependency) :
    (checkAssemblies v dependencies).2.policy = v.policy := by
  induction dependencies generalizing v with
  | nil => rfl
  | cons d rest ih => exact (ih _).trans (checkAssembly_policy v d)

/-- Nothing but what the validator remembers is different. -/
structure SameGeneration (a b : Analyzer) : Prop where
  hierarchy : b.hierarchy = a.hierarchy
  state : b.generation.state = a.generation.state
  policy : b.generation.validator.map (·.policy) = a.generation.validator.map (·.policy)
  number : b.generation.number = a.generation.number

theorem sameGeneration_ask {α : Type} (a : Analyzer) {question : Validator → α × Validator}
    (h : ∀ v, (question v).2.policy = v.policy) : SameGeneration a (a.ask question).2 := by
  cases hvalidator : a.generation.validator with
  | none =>
      simp only [Analyzer.ask, Generation.ask, hvalidator]
      exact ⟨rfl, rfl, rfl, rfl⟩
  | some v =>
      simp only [Analyzer.ask, Generation.ask, hvalidator]
      refine ⟨rfl, rfl, ?_, rfl⟩
      rw [hvalidator, Option.map_some, Option.map_some, h]

theorem sameGeneration_analyze (a : Analyzer) (engines : Engines) (files : Files)
    (occurrences : List Occurrence) :
    SameGeneration a (a.analyze engines files occurrences).2 :=
  sameGeneration_ask a fun v => checkOccurrences_policy _ 0 v occurrences

theorem sameGeneration_analyzeAssemblies (a : Analyzer) (dependencies : List AssemblyDependency) :
    SameGeneration a (a.analyzeAssemblies dependencies).2 := by
  have hpolicy : ∀ v : Validator, (if v.policy.checkAssemblies then
      checkAssemblies v dependencies else ({}, v)).2.policy = v.policy := by
    intro v
    split
    · exact checkAssemblies_policy v dependencies
    · rfl
  exact sameGeneration_ask a hpolicy

theorem sameGeneration_resetUsage (a : Analyzer) : SameGeneration a a.resetUsage :=
  sameGeneration_ask a fun _ => rfl

/-- Every call but a refresh leaves the generation what it is. -/
theorem call_cases (s : Session) (call : Call) :
    s.call call = s.call .refresh ∨
      ∃ a, SameGeneration s.analyzer a ∧ s.call call = { s with analyzer := a } := by
  cases call with
  | refresh => exact .inl rfl
  | analyze engines occurrences => exact .inr ⟨_, sameGeneration_analyze .., rfl⟩
  | analyzeAssemblies dependencies => exact .inr ⟨_, sameGeneration_analyzeAssemblies .., rfl⟩
  | unusedIssues => exact .inr ⟨s.analyzer, ⟨rfl, rfl, rfl, rfl⟩, rfl⟩
  | resetUsage => exact .inr ⟨_, sameGeneration_resetUsage _, rfl⟩

/-- All that a refresh can do. -/
theorem refresh_cases (a : Analyzer) (files : Files) :
    a.refresh files = (a, false) ∧ a.hierarchy.refresh files = (a.hierarchy, false) ∨
      ∃ hierarchy, a.hierarchy.refresh files = (hierarchy, true) ∧
        a.refresh files =
          ({ a with
              hierarchy
              generation := .ofState (a.generation.number + 1) hierarchy.state
              earlier := a.generation :: a.earlier }, true) := by
  by_cases hcurrent : (a.hierarchy.loaded &&
      areCurrent (discover files a.hierarchy.folder a.hierarchy.depth) a.hierarchy.levels) = true
  · have hrefresh : a.hierarchy.refresh files = (a.hierarchy, false) := if_pos hcurrent
    refine .inl ⟨?_, hrefresh⟩
    rw [Analyzer.refresh, hrefresh]
    rfl
  · have hrefresh : a.hierarchy.refresh files = _ := if_neg hcurrent
    refine .inr ⟨_, hrefresh, ?_⟩
    rw [Analyzer.refresh, hrefresh]
    rfl

theorem refresh_hierarchy (a : Analyzer) (files : Files) :
    (a.refresh files).1.hierarchy = (a.hierarchy.refresh files).1 ∧
      (a.refresh files).2 = (a.hierarchy.refresh files).2 := by
  rcases refresh_cases a files with ⟨ha, hh⟩ | ⟨hierarchy, hh, ha⟩
  · rw [ha, hh]
    exact ⟨rfl, rfl⟩
  · rw [ha, hh]
    exact ⟨rfl, rfl⟩

theorem refresh_of_renewed {a : Analyzer} {files : Files} (h : (a.refresh files).2 = true)
    {v : Validator} (hv : (a.refresh files).1.generation.validator = some v) : Unasked v := by
  rcases refresh_cases a files with ⟨ha, -⟩ | ⟨hierarchy, -, ha⟩
  · rw [ha] at h
    exact absurd h Bool.false_ne_true
  · rw [ha] at hv
    obtain ⟨policy, -, rfl⟩ := Option.map_eq_some_iff.mp hv
    rfl

theorem refresh_of_not_renewed {a : Analyzer} {files : Files} (h : (a.refresh files).2 = false) :
    (a.refresh files).1 = a := by
  rcases refresh_cases a files with ⟨ha, -⟩ | ⟨hierarchy, -, ha⟩
  · rw [ha]
  · rw [ha] at h
    exact absurd h.symm Bool.false_ne_true

theorem ofState_policy (number : Nat) (state : PolicyState) :
    (Generation.ofState number state).validator.map (·.policy) = state.policy? := by
  rw [Generation.ofState, Option.map_map]
  exact Option.map_id_apply

theorem seen_refresh {h : Hierarchy} (hstate : h.loaded = true → h.state = stateOfLevels h.levels)
    (files : Files) : Seen files (h.refresh files).1 := by
  have hlevels : List.Forall₂ IsOf (discover files h.folder h.depth) (h.refresh files).1.levels :=
    (stands_refresh h files).imp fun _ _ hlevel => ⟨hlevel.path, hlevel.fingerprint⟩
  refine ⟨?_, refresh_state hstate files, ?_⟩
  · rw [Hierarchy.refresh]
    split
    · next hcurrent => exact (Bool.and_eq_true_iff.mp hcurrent).1
    · rfl
  · have hplace : (h.refresh files).1.folder = h.folder ∧ (h.refresh files).1.depth = h.depth := by
      rw [Hierarchy.refresh]
      split <;> exact ⟨rfl, rfl⟩
    rw [hplace.1, hplace.2]
    exact hlevels

theorem areCurrent_iff_of_seen {found : List (Path × Fingerprint)} {levels : List Level}
    (h : List.Forall₂ IsOf found levels) :
    areCurrent found levels = true ↔ ¬ ∃ level ∈ levels, ∃ e, level.draft = .error e := by
  induction h with
  | nil => simp [areCurrent]
  | @cons f level _ _ hlevel _ ih =>
      rw [areCurrent, Bool.and_eq_true, ih, List.exists_mem_cons_iff, not_or]
      refine and_congr_left fun _ => ?_
      rw [Level.isCurrent, hlevel.1, hlevel.2]
      cases level.draft <;> simp [Except.isOk, Except.toBool]

/-- Where the files were looked at, only a file that failed makes for a change. -/
theorem Seen.refresh_iff {files : Files} {h : Hierarchy} (hseen : Seen files h) :
    (h.refresh files).2 = true ↔ ∃ e, h.state = .failed e := by
  rw [hseen.state, Refresh.stateOfLevels_failed_iff, ← not_iff_not,
    ← areCurrent_iff_of_seen hseen.levels, Hierarchy.refresh, hseen.loaded, Bool.true_and]
  split
  · next hcurrent => simp [hcurrent]
  · next hcurrent => simp [hcurrent]

section Runs

variable {s : Session}

theorem Consistent.of_sameGeneration (h : Consistent s) {a : Analyzer}
    (ha : SameGeneration s.analyzer a) : Consistent { s with analyzer := a } where
  merged := by rw [ha.hierarchy, h.merged]
  state := by rw [ha.state, ha.hierarchy, h.state]
  policy := by rw [ha.policy, ha.hierarchy, h.policy]
  number := by rw [ha.number, h.number]

theorem consistent_start (folder : Path) (depth : Option Nat) (files : Files) :
    Consistent (.start folder depth files) :=
  ⟨rfl, rfl, ofState_policy .., rfl⟩

theorem Consistent.refresh (h : Consistent s) : Consistent (s.call .refresh) := by
  have hmerged := refresh_state (fun _ => h.merged) s.files
  rcases refresh_cases s.analyzer s.files with ⟨ha, -⟩ | ⟨hierarchy, hh, ha⟩
  · simp only [Session.call, ha]
    exact ⟨h.merged, h.state, h.policy, h.number⟩
  · rw [hh] at hmerged
    simp only [Session.call, ha]
    refine ⟨hmerged, rfl, ofState_policy .., ?_⟩
    have hnumber := h.number
    change s.analyzer.generation.number + 1 = 1 + (s.renewals + 1)
    omega

theorem Consistent.call (h : Consistent s) (call : Call) : Consistent (s.call call) := by
  rcases call_cases s call with hcall | ⟨a, ha, hcall⟩
  · exact hcall ▸ h.refresh
  · exact hcall ▸ h.of_sameGeneration ha

theorem Consistent.run (h : Consistent s) (events : List Event) : Consistent (s.run events) := by
  induction events generalizing s with
  | nil => exact h
  | cons event rest ih =>
      cases event with
      | change files => exact ih ⟨h.merged, h.state, h.policy, h.number⟩
      | call call => exact ih (h.call call)

theorem seen_call_refresh (h : Consistent s) :
    Seen (s.call .refresh).files (s.call .refresh).analyzer.hierarchy := by
  have hseen := seen_refresh (fun _ => h.merged) s.files
  rw [← (refresh_hierarchy s.analyzer s.files).1] at hseen
  exact hseen

/-- As long as no file changes, a session goes on with files that were looked at. -/
theorem consistent_seen_calls (h : Consistent s) (hseen : Seen s.files s.analyzer.hierarchy)
    (calls : List Call) :
    Consistent (s.calls calls) ∧ Seen (s.calls calls).files (s.calls calls).analyzer.hierarchy := by
  induction calls generalizing s with
  | nil => exact ⟨h, hseen⟩
  | cons call rest ih =>
      refine ih (h.call call) ?_
      rcases call_cases s call with hcall | ⟨a, ha, hcall⟩
      · rw [hcall]
        exact seen_call_refresh h
      · rw [hcall]
        exact ha.hierarchy ▸ hseen

theorem renewsOnlyFailure_of_seen (h : Consistent s) (hseen : Seen s.files s.analyzer.hierarchy) :
    RenewsOnlyFailure s := by
  rw [RenewsOnlyFailure, (refresh_hierarchy s.analyzer s.files).2, hseen.refresh_iff,
    Analyzer.state, h.state]

end Runs

/-- Whatever happened since the analyzer was opened, its generation is consistent, and a refresh
either begins one with a validator that was not asked anything or leaves the analyzer as it is.
When files do not change after it was opened or refreshed, a refresh finds a change just when there
is an error. -/
theorem consistent_run (folder : Path) (depth : Option Nat) (files : Files) (events : List Event)
    (calls : List Call) :
    let opened := Session.start folder depth files
    let s := opened.run events
    let next := s.analyzer.refresh s.files
    Consistent s ∧
      (next.2 = true → ∀ v, next.1.generation.validator = some v → Unasked v) ∧
      (next.2 = false → next.1 = s.analyzer) ∧
      RenewsOnlyFailure (opened.calls calls) ∧
      RenewsOnlyFailure ((s.call .refresh).calls calls) := by
  intro opened s next
  have hopened : Consistent opened := consistent_start folder depth files
  have hs : Consistent s := hopened.run events
  have hunloaded : ¬ ((Hierarchy.ofFolder folder depth).loaded = true) := Bool.false_ne_true
  have hopenedSeen : Seen opened.files opened.analyzer.hierarchy :=
    seen_refresh (fun hloaded => absurd hloaded hunloaded) files
  obtain ⟨hlater, hlaterSeen⟩ := consistent_seen_calls hopened hopenedSeen calls
  obtain ⟨hagain, hagainSeen⟩ := consistent_seen_calls hs.refresh (seen_call_refresh hs) calls
  exact ⟨hs, fun hrenewed _ hv => refresh_of_renewed hrenewed hv, refresh_of_not_renewed,
    renewsOnlyFailure_of_seen hlater hlaterSeen, renewsOnlyFailure_of_seen hagain hagainSeen⟩

end NamespacePolicy.Proofs.Generations
