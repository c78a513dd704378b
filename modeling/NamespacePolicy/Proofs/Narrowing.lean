import Mathlib.Data.Finset.Basic
import Mathlib.Data.Set.Finite.Basic
import NamespacePolicy.Proofs.WildcardScore

/-!
Wildcard patterns of which one is narrower than the other.  A narrower pattern is laid over names
that no literal of the broader one fits, except where the narrower one says so, with more such
names for each of its `*` than the broader one has `?`.  Counting the stretches of these names
shows how far the narrower pattern can cost more: by one for each of its `*` that adds nothing,
because there is another `*` before it and nothing but `?` between.
-/

namespace NamespacePolicy.Proofs.Narrowing

open Proofs.Alignment Ranking Separation WildcardScore

/-- How many `*` of a pattern come after another one with nothing but `?` between. -/
def spareStars : (starred : Bool) → List WildcardComponent → Nat
  | _, [] => 0
  | _, .literal _ :: pattern => spareStars false pattern
  | starred, .anyOne :: pattern => spareStars starred pattern
  | starred, .anyMany :: pattern => starred.toNat + spareStars true pattern

/-- Between two `*` of the pattern there is a literal. -/
def Separated (pattern : List WildcardComponent) : Prop :=
  ∀ before between after, pattern = before ++ .anyMany :: (between ++ .anyMany :: after) →
    between.any WildcardComponent.isLiteral = true

theorem Separated.tail {component : WildcardComponent} {pattern : List WildcardComponent}
    (h : Separated (component :: pattern)) : Separated pattern := by
  rintro before between after rfl
  exact h (component :: before) between after rfl

theorem spareStars_eq_zero {pattern : List WildcardComponent} (h : Separated pattern)
    (starred : Bool)
    (hstarred : starred = true → ∀ between after, pattern = between ++ .anyMany :: after →
      between.any WildcardComponent.isLiteral = true) :
    spareStars starred pattern = 0 := by
  induction pattern generalizing starred with
  | nil => rfl
  | cons component pattern ih =>
      cases component with
      | literal name => exact ih h.tail false (by simp)
      | anyOne =>
          apply ih h.tail starred
          rintro hstar between after rfl
          exact hstarred hstar (.anyOne :: between) after rfl
      | anyMany =>
          have hfirst : starred = false := by
            rw [← Bool.not_eq_true]
            intro hstar
            exact absurd (hstarred hstar [] pattern rfl) Bool.false_ne_true
          rw [spareStars, hfirst, Bool.toNat_false, Nat.zero_add]
          apply ih h.tail true
          rintro - between after rfl
          exact h [] between after rfl

section Words

variable (fresh : String) (times : Nat)

/-- What a component is laid over, when every `*` takes a name so many times. -/
def filling : WildcardComponent → List String
  | .literal name => [name]
  | .anyOne => [fresh]
  | .anyMany => List.replicate times fresh

def wordOf (pattern : List WildcardComponent) : List String := pattern.flatMap (filling fresh times)

theorem lays_wordOf (pattern : List WildcardComponent) :
    ∃ k, Lays pattern (wordOf fresh times pattern) k := by
  induction pattern with
  | nil => exact ⟨0, .nil⟩
  | cons component pattern ih =>
      obtain ⟨k, hk⟩ := ih
      cases component with
      | literal name => exact ⟨k, .literal name hk⟩
      | anyOne => exact ⟨k + 1, .anyOne fresh hk⟩
      | anyMany => exact ⟨_, .anyMany (List.replicate times fresh) hk⟩

theorem mem_wordOf {pattern : List WildcardComponent} {name : String}
    (h : name ∈ wordOf fresh times pattern) : name = fresh ∨ .literal name ∈ pattern := by
  obtain ⟨component, hcomponent, hname⟩ := List.mem_flatMap.mp h
  cases component with
  | literal text =>
      obtain rfl := List.mem_singleton.mp hname
      exact .inr hcomponent
  | anyOne => exact .inl (List.mem_singleton.mp hname)
  | anyMany => exact .inl (List.eq_of_mem_replicate hname)

theorem fresh_mem_wordOf (htimes : 0 < times) {pattern : List WildcardComponent}
    (hpattern : pattern.all WildcardComponent.isLiteral = false) :
    fresh ∈ wordOf fresh times pattern := by
  obtain ⟨component, hcomponent, hwild⟩ := List.all_eq_false.mp hpattern
  refine List.mem_flatMap.mpr ⟨component, hcomponent, ?_⟩
  cases component with
  | literal text => exact absurd rfl hwild
  | anyOne => exact List.mem_singleton.mpr rfl
  | anyMany => exact List.mem_replicate.mpr ⟨htimes.ne', rfl⟩

theorem countP_wordOf {pattern : List WildcardComponent} (hfresh : .literal fresh ∉ pattern) :
    (wordOf fresh times pattern).countP (· ≠ fresh) =
      pattern.countP WildcardComponent.isLiteral := by
  induction pattern with
  | nil => rfl
  | cons component pattern ih =>
      obtain ⟨hcomponent, hpattern⟩ := not_or.mp (mt List.mem_cons.mpr hfresh)
      rw [wordOf, List.flatMap_cons, List.countP_append, List.countP_cons]
      change _ + (wordOf fresh times pattern).countP _ = _
      rw [ih hpattern, Nat.add_comm]
      congr 1
      cases component with
      | literal name =>
          have hname : name ≠ fresh := by
            rintro rfl
            exact hcomponent rfl
          simp [filling, WildcardComponent.isLiteral, hname]
      | anyOne => simp [filling, WildcardComponent.isLiteral]
      | anyMany => simp [filling, WildcardComponent.isLiteral, List.countP_replicate]

end Words

section Runs

variable (fresh : String) (long : Nat)

/-- How many runs of one name are long, where the run at the beginning goes on from before. -/
def longRuns : (run : Nat) → List String → Nat
  | run, [] => if long ≤ run then 1 else 0
  | run, name :: names =>
      if name = fresh then longRuns (run + 1) names
      else (if long ≤ run then 1 else 0) + longRuns 0 names

theorem longRuns_le_succ (run run' : Nat) (names : List String) :
    longRuns fresh long run names ≤ longRuns fresh long run' names + 1 := by
  induction names generalizing run run' with
  | nil =>
      simp only [longRuns]
      split <;> omega
  | cons name names ih =>
      simp only [longRuns]
      split
      · exact ih (run + 1) (run' + 1)
      · split <;> omega

/-- Some names in front begin one more long run at most for each that is another name. -/
theorem longRuns_append_le (run : Nat) (taken names : List String) :
    longRuns fresh long run (taken ++ names) ≤
      longRuns fresh long 0 names + taken.countP (· ≠ fresh) + 1 := by
  induction taken generalizing run with
  | nil => exact longRuns_le_succ fresh long run 0 names
  | cons name taken ih =>
      rw [List.cons_append, longRuns]
      split
      · next hname =>
        have hrest := ih (run + 1)
        rw [List.countP_cons_of_neg (by simpa using hname)]
        exact hrest
      · next hname =>
        have hrest := ih 0
        rw [List.countP_cons_of_pos (by simpa using hname)]
        split <;> omega

theorem longRuns_replicate_append (run times : Nat) (names : List String) :
    longRuns fresh long run (List.replicate times fresh ++ names) =
      longRuns fresh long (run + times) names := by
  induction times generalizing run with
  | zero => rfl
  | succ times ih =>
      rw [List.replicate_succ, List.cons_append, longRuns, if_pos rfl, ih]
      congr 1
      omega

/-- A pattern pays for every long run with a `*`, or with a name that none of its literals takes. -/
theorem longRuns_add_literals_le {pattern : List WildcardComponent} {names : List String} {k : Nat}
    (h : Lays pattern names k) (hfresh : .literal fresh ∉ pattern) (run : Nat)
    (hrun : run + pattern.count .anyOne < long) :
    longRuns fresh long run names + pattern.countP WildcardComponent.isLiteral ≤
      pattern.count .anyMany + names.countP (· ≠ fresh) := by
  induction h generalizing run with
  | nil =>
      rw [List.count_nil] at hrun
      simp only [longRuns, if_neg (show ¬ long ≤ run by omega)]
      exact Nat.zero_le _
  | @literal pattern names k name _ ih =>
      obtain ⟨hname, hpattern⟩ := not_or.mp (mt List.mem_cons.mpr hfresh)
      have hother : name ≠ fresh := by
        rintro rfl
        exact hname rfl
      rw [List.count_cons_of_ne (by simp)] at hrun ⊢
      have hrest := ih hpattern 0 (by omega)
      rw [longRuns, if_neg hother, if_neg (by omega), List.countP_cons_of_pos rfl,
        List.countP_cons_of_pos (by simpa using hother)]
      omega
  | @anyOne pattern names k name _ ih =>
      have hpattern : .literal fresh ∉ pattern := fun hmem => hfresh (List.mem_cons_of_mem _ hmem)
      rw [List.count_cons_self] at hrun
      rw [longRuns, List.countP_cons_of_neg (by decide), List.count_cons_of_ne (by simp)]
      split
      · next hname =>
        have hrest := ih hpattern (run + 1) (by omega)
        rwa [List.countP_cons_of_neg (by simpa using hname)]
      · next hname =>
        have hrest := ih hpattern 0 (by omega)
        rw [if_neg (by omega), List.countP_cons_of_pos (by simpa using hname)]
        omega
  | @anyMany pattern names k taken _ ih =>
      have hpattern : .literal fresh ∉ pattern := fun hmem => hfresh (List.mem_cons_of_mem _ hmem)
      rw [List.count_cons_of_ne (by simp)] at hrun
      have hrest := ih hpattern 0 (by omega)
      have htaken := longRuns_append_le fresh long run taken names
      rw [List.countP_cons_of_neg (by decide), List.count_cons_self, List.countP_append]
      omega

/-- Every `*` that is not spare makes a long run. -/
theorem stars_le_longRuns_wordOf {pattern : List WildcardComponent}
    (hfresh : .literal fresh ∉ pattern) (starred : Bool) (run : Nat)
    (hrun : starred = true → long ≤ run) :
    pattern.count .anyMany + starred.toNat ≤
      longRuns fresh long run (wordOf fresh long pattern) + spareStars starred pattern := by
  induction pattern generalizing starred run with
  | nil =>
      cases starred with
      | false => exact Nat.zero_le _
      | true =>
          change 1 ≤ longRuns fresh long run [] + 0
          rw [longRuns, if_pos (hrun rfl)]
  | cons component pattern ih =>
      obtain ⟨hcomponent, hpattern⟩ := not_or.mp (mt List.mem_cons.mpr hfresh)
      cases component with
      | literal name =>
          have hother : name ≠ fresh := by
            rintro rfl
            exact hcomponent rfl
          have hrest := ih hpattern false 0 (by simp)
          change _ ≤ longRuns fresh long run (name :: wordOf fresh long pattern) +
            spareStars false pattern
          rw [longRuns, if_neg hother, List.count_cons_of_ne (by simp)]
          cases starred with
          | false =>
              simp only [Bool.toNat_false] at hrest ⊢
              omega
          | true =>
              rw [if_pos (hrun rfl)]
              simp only [Bool.toNat_false, Bool.toNat_true] at hrest ⊢
              omega
      | anyOne =>
          have hrest := ih hpattern starred (run + 1) fun hstarred => Nat.le_succ_of_le (hrun hstarred)
          change _ ≤ longRuns fresh long run (fresh :: wordOf fresh long pattern) +
            spareStars starred pattern
          rwa [longRuns, if_pos rfl, List.count_cons_of_ne (by simp)]
      | anyMany =>
          have hrest := ih hpattern true (run + long) fun _ => Nat.le_add_left _ _
          change _ ≤ longRuns fresh long run
            (List.replicate long fresh ++ wordOf fresh long pattern) +
              (starred.toNat + spareStars true pattern)
          rw [longRuns_replicate_append, List.count_cons_self]
          simp only [Bool.toNat_true] at hrest
          omega

end Runs

theorem components_ofSymbol_joined {names : List String} (hne : names ≠ [])
    (hnames : ∀ name ∈ names, name ≠ "" ∧ '.' ∉ name.toList)
    (hspelling : names ≠ ["<global namespace>"]) :
    (Domain.ofSymbol (Text.joined "." names)).components = names := by
  have hdot : ".".toList = ['.'] := rfl
  have hpieces : Text.pieces '.' (Text.joined "." names) = names :=
    pieces_joined hdot hne fun name hname => (hnames name hname).2
  have hnonempty : "" ∉ names := fun hmem => (hnames "" hmem).1 rfl
  generalize Text.joined "." names = text at hpieces
  have htext : text ∉ Domain.globalSpellings := by
    intro hmem
    simp only [Domain.globalSpellings, List.mem_cons, List.not_mem_nil, or_false] at hmem
    rcases hmem with rfl | rfl | rfl
    · exact hnonempty (hpieces ▸ (by decide +kernel : "" ∈ Text.pieces '.' ""))
    · exact hnonempty (hpieces ▸ (by decide +kernel : "" ∈ Text.pieces '.' "."))
    · exact hspelling (hpieces ▸ (by decide +kernel))
  rw [Domain.components_ofSymbol htext, hpieces]

theorem literal_of_readComponents {pattern : String} {afterMany : Bool} {parts : List String}
    {components : List WildcardComponent}
    (h : Wildcard.readComponents pattern afterMany parts = .ok components) {name : String}
    (hname : .literal name ∈ components) : name ∈ parts ∧ name ≠ "" := by
  induction parts generalizing afterMany components with
  | nil =>
      obtain rfl := Except.ok.inj h
      simp at hname
  | cons part parts ih =>
      have hrest : ∀ {afterMany : Bool} {component : WildcardComponent},
          (Wildcard.readComponents pattern afterMany parts).map (component :: ·) =
            .ok components →
          component ≠ .literal name → name ∈ part :: parts ∧ name ≠ "" := by
        intro afterMany component h hne
        obtain ⟨others, hothers, rfl⟩ := exists_of_map_eq_ok h
        have hmem := ih hothers (List.mem_of_ne_of_mem hne.symm hname)
        exact ⟨List.mem_cons_of_mem _ hmem.1, hmem.2⟩
      simp only [Wildcard.readComponents] at h
      split_ifs at h with hempty
      · exact hrest h (by simp)
      · exact hrest h (by simp)
      · by_cases hpart : part = name
        · subst hpart
          exact ⟨List.mem_cons_self, hempty⟩
        · exact hrest h (by simpa using hpart)

theorem literal_of_parse {text : String} {w : Wildcard} (h : Wildcard.parse text = .ok w)
    {name : String} (hname : .literal name ∈ w.components) :
    name ≠ "" ∧ '.' ∉ name.toList := by
  simp only [Wildcard.parse, bind, Except.bind] at h
  split at h
  · simp at h
  · next components hcomponents =>
    split_ifs at h
    obtain rfl := Except.ok.inj h
    obtain ⟨hmem, hne⟩ := literal_of_readComponents hcomponents hname
    exact ⟨hne, not_mem_of_mem_pieces hmem⟩

theorem matches_of_components {c : Domain} {w : Wildcard} {names : List String} {k : Nat}
    (hc : c.components = names) (h : Lays w.components names k) : Matches c (.wildcard w) := by
  rw [← hc] at h
  exact ⟨k, h⟩

/-- There is always another name. -/
theorem exists_fresh (names : List String) :
    ∃ fresh : String, fresh ∉ names ∧ fresh ≠ "" ∧ '.' ∉ fresh.toList := by
  let name (n : Nat) : String := String.ofList (List.replicate (n + 1) 'x')
  have hinjective : Function.Injective name := by
    intro m n h
    have hlength := congrArg List.length (ofList_injective h)
    simpa using hlength
  obtain ⟨_, ⟨n, rfl⟩, hn⟩ :=
    (Set.infinite_range_of_injective hinjective).exists_notMem_finset names.toFinset
  refine ⟨name n, by simpa using hn, ?_, ?_⟩
  · intro h
    have hnil := congrArg String.toList h
    simp [name, List.replicate_succ] at hnil
  · simp [name]

theorem exists_components_wordOf {text fresh : String} {w : Wildcard} (long : Nat)
    (hlong : 0 < long) (hw : Wildcard.parse text = .ok w) (hne : fresh ≠ "")
    (hdot : '.' ∉ fresh.toList) (hspelling : fresh ≠ "<global namespace>") :
    ∃ name, (Domain.ofSymbol name).components = wordOf fresh long w.components := by
  have hmem : fresh ∈ wordOf fresh long w.components :=
    fresh_mem_wordOf fresh long hlong (not_all_literal_of_parse hw)
  refine ⟨_, components_ofSymbol_joined (List.ne_nil_of_mem hmem) ?_ ?_⟩
  · intro name hname
    rcases mem_wordOf fresh long hname with rfl | hliteral
    · exact ⟨hne, hdot⟩
    · exact literal_of_parse hw hliteral
  · intro hword
    rw [hword, List.mem_singleton] at hmem
    exact hspelling hmem

theorem stars_le_of_narrower {text : String} {p q : Wildcard} (hp : Wildcard.parse text = .ok p)
    (hnarrower : ∀ name, Matches (.ofSymbol name) (.wildcard p) →
      Matches (.ofSymbol name) (.wildcard q)) :
    p.components.count .anyMany + q.components.countP WildcardComponent.isLiteral ≤
      q.components.count .anyMany + p.components.countP WildcardComponent.isLiteral +
        spareStars false p.components := by
  let components : List WildcardComponent := p.components ++ q.components
  obtain ⟨fresh, hfresh, hne, hdot⟩ :=
    exists_fresh ("<global namespace>" :: components.map WildcardComponent.text)
  rw [List.mem_cons, not_or] at hfresh
  have hliteral : .literal fresh ∉ components := by
    intro hmem
    exact hfresh.2 (List.mem_map_of_mem hmem)
  obtain ⟨hfreshp, hfreshq⟩ := not_or.mp (mt List.mem_append.mpr hliteral)
  -- A run longer than all the `?` of the broader pattern together takes one of its `*`.
  let long : Nat := q.components.count .anyOne + 1
  obtain ⟨name, hname⟩ := exists_components_wordOf long (Nat.succ_pos _) hp hne hdot hfresh.1
  obtain ⟨k, hk⟩ := lays_wordOf fresh long p.components
  obtain ⟨j, hj⟩ := hnarrower name (matches_of_components hname hk)
  rw [hname] at hj
  have hbroad := longRuns_add_literals_le fresh long hj hfreshq 0 (by omega)
  have hnarrow := stars_le_longRuns_wordOf fresh long hfreshp false 0 (by simp)
  rw [countP_wordOf fresh long hfreshp] at hbroad
  rw [Bool.toNat_false] at hnarrow
  omega

/-- A pattern that matches only what another one matches is at least as relevant, but for its spare
`*`; it has none when its `*` are separated by literals. -/
theorem relevance_le_of_narrower {text : String} {p q : Wildcard}
    (hp : Wildcard.parse text = .ok p)
    (hnarrower : ∀ name, Matches (.ofSymbol name) (.wildcard p) →
      Matches (.ofSymbol name) (.wildcard q))
    {c : Domain} (hc : Matches c (.wildcard p)) :
    q.relevance c ≤ p.relevance c + spareStars false p.components ∧
      (Separated p.components → q.relevance c ≤ p.relevance c) := by
  have hle : q.relevance c ≤ p.relevance c + spareStars false p.components := by
    have hstars := stars_le_of_narrower hp hnarrower
    obtain ⟨k, hk⟩ := hc
    rw [relevance_of_lays hk]
    by_cases hq : ∃ j, Lays q.components c.components j
    · obtain ⟨j, hj⟩ := hq
      have hcostp := hk.cost_add_literals
      have hcostq := hj.cost_add_literals
      rw [relevance_of_lays hj]
      omega
    · rw [relevance_of_not_lays (not_exists.mp hq)]
      exact Nat.zero_le _
  refine ⟨hle, ?_⟩
  intro hseparated
  rwa [spareStars_eq_zero hseparated false (by simp)] at hle

/-- Both patterns have two `*`, but only in the narrower one a literal stands between them. -/
theorem literal_between_stars_narrower :
    let p : Wildcard := ⟨[.anyMany, .literal "A", .anyMany]⟩
    let q : Wildcard := ⟨[.anyMany, .anyOne, .anyMany]⟩
    let c : Domain := ⟨"B.A.C"⟩
    Wildcard.parse "*.A.*" = .ok p ∧
      (∀ name, Matches (.ofSymbol name) (.wildcard p) → Matches (.ofSymbol name) (.wildcard q)) ∧
      Matches c (.wildcard p) ∧ spareStars false p.components = 0 ∧
      q.relevance c ≤ p.relevance c := by
  intro p q c
  have hp : Wildcard.parse "*.A.*" = .ok p := by decide +kernel
  have hnarrower : ∀ name, Matches (.ofSymbol name) (.wildcard p) →
      Matches (.ofSymbol name) (.wildcard q) := by
    rintro name ⟨k, hk⟩
    generalize hcomponents : (Domain.ofSymbol name).components = names at hk
    cases hk with
    | anyMany taken hk =>
        cases hk with
        | literal _ hk => exact matches_of_components hcomponents (.anyMany taken (.anyOne "A" hk))
  have hc : Matches c (.wildcard p) :=
    matches_of_components (by decide +kernel)
      (.anyMany ["B"] (.literal "A" (.anyMany ["C"] .nil)))
  exact ⟨hp, hnarrower, hc, rfl, (relevance_le_of_narrower hp hnarrower hc).1⟩

/-- With a spare `*`, a pattern is less relevant than one that matches more. -/
theorem spare_star_outranked :
    let p : Wildcard := ⟨[.anyMany, .anyOne, .anyMany]⟩
    let q : Wildcard := ⟨[.anyMany]⟩
    let c : Domain := ⟨"A"⟩
    Wildcard.parse "*.?.*" = .ok p ∧ Wildcard.parse "*" = .ok q ∧
      (∀ d, Matches d (.wildcard p) → Matches d (.wildcard q)) ∧
      Matches c (.wildcard p) ∧ p.relevance c < q.relevance c := by
  intro p q c
  have hq : ∀ d, Matches d (.wildcard q) := by
    intro d
    exact matches_of_components (List.append_nil _).symm (.anyMany d.components .nil)
  have hc : Matches c (.wildcard p) :=
    matches_of_components (by decide +kernel) (.anyMany [] (.anyOne "A" (.anyMany [] .nil)))
  refine ⟨by decide +kernel, by decide +kernel, fun d _ => hq d, hc, ?_⟩
  decide +kernel

end NamespacePolicy.Proofs.Narrowing
