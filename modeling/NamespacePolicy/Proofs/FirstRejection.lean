import NamespacePolicy.PolicyFile.Draft
import NamespacePolicy.Policy.Edit
import NamespacePolicy.Proofs.Replay

/-!
Which text of a policy file is rejected.  All texts of a file have a place in one order; the first
of them that means nothing is rejected, with its own name and span, and a file none of whose texts
is rejected gives the draft that all its settings and entries make, one after the other.
-/

namespace NamespacePolicy.Proofs.FirstRejection

open PolicyFile Replay Text

/-- What a text has to be. -/
inductive Role where
  | oneOf (values : List String)
  | glob
  | pattern (kind : PatternSyntax)
  | domain

def errorOf? {ε α : Type} : Except ε α → Option ε
  | .ok _ => none
  | .error e => some e

def Role.fault? : Role → String → Option RejectionCause
  | oneOf values, text => if text ∈ values then none else some (.unknownValue text values)
  | glob, text => (errorOf? (Glob.parse text)).map (.glob text)
  | pattern kind, text => (errorOf? (Pattern.parse kind text)).map .pattern
  | domain, text => (errorOf? (Domain.parse text)).map .pattern

/-- A text of a file, under the name by which a rejection calls its place. -/
structure NamedText where
  role : Role
  name : String
  text : LocatedText

def NamedText.rejection? (t : NamedText) : Option Rejection :=
  (t.role.fault? t.text.text).map fun cause => ⟨t.name, t.text.span, cause⟩

/-- How the patterns of a file are read. -/
def kindOf (f : PolicyFile) : PatternSyntax :=
  if f.patternSyntax.map (·.text) = some "tree" then .tree else .wildcard

def sidesOf (kind : PatternSyntax) (name : String) (source target : LocatedText) :
    List NamedText :=
  [⟨.pattern kind, name ++ ".from", source⟩, ⟨.pattern kind, name ++ ".to", target⟩]

def settingOf (role : Role) (name : String) (t : Option LocatedText) : List NamedText :=
  (t.map (NamedText.mk role name)).toList

/-- The texts of some entries by their index, those of an entry together. -/
def entriesOf {α : Type} (texts : Nat → α → List NamedText) (entries : List α) :
    List NamedText :=
  (entries.mapIdx texts).flatten

def rulesOf (kind : PatternSyntax) (heading : String) (entries : List RuleEntry) :
    List NamedText :=
  entriesOf (fun i e => sidesOf kind (heading ++ "[" ++ toString i ++ "]") e.source e.target)
    entries

def severity : Role := .oneOf ["error", "warning", "info"]

/-- All texts of a file in the order in which they are looked at. -/
def textsOf (f : PolicyFile) : List NamedText :=
  settingOf (.oneOf ["wildcard", "tree"]) "pattern_syntax" f.patternSyntax ++
  settingOf severity "dependency_issue_severity" f.dependencySeverity ++
  settingOf severity "max_issue_count_severity" f.limitSeverity ++
  entriesOf (fun i t => [⟨.glob, "excluded_files[" ++ toString i ++ "]", t⟩]) f.excluded ++
  entriesOf (fun i e => sidesOf (kindOf f) ("allowed[" ++ toString i ++ "]") e.source e.target)
    f.allowed ++
  rulesOf (kindOf f) "disallowed" f.disallowed ++
  entriesOf (fun i e =>
    [⟨.domain, "visible-members[" ++ toString i ++ "].of_namespace", e.namespaceName⟩])
    f.visibleMembers ++
  rulesOf (kindOf f) "allowed-assembly" f.allowedAssembly ++
  rulesOf (kindOf f) "disallowed-assembly" f.disallowedAssembly

structure MeansRule (kind : PatternSyntax) (source target : LocatedText) (rule : Rule) :
    Prop where
  source : Pattern.parse kind source.text = .ok rule.source
  target : Pattern.parse kind target.text = .ok rule.target

def trimmedTypes (names : List String) : TypeNames := .ofList (names.map Text.trim)

inductive MeansAllow (kind : PatternSyntax) (e : AllowEntry) : Edit → Prop
  | mk {rule : Rule} (hrule : MeansRule kind e.source e.target rule) :
      MeansAllow kind e (.addAllow rule (trimmedTypes e.visible))

/-- A rule entry of a section whose rules are added in the given way. -/
inductive MeansEntry (kind : PatternSyntax) (add : Rule → Edit) (e : RuleEntry) : Edit → Prop
  | mk {rule : Rule} (hrule : MeansRule kind e.source e.target rule) :
      MeansEntry kind add e (add rule)

inductive MeansMembers (e : MembersEntry) : Edit → Prop
  | mk {ns : Domain} (hns : Domain.parse e.namespaceName.text = .ok ns) :
      MeansMembers e (.addVisible ns (trimmedTypes e.types))

/-- The edits that a file stands for: its settings, then its entries section by section. -/
inductive MeansEdits (f : PolicyFile) : List Edit → Prop
  | mk {dependencySeverity limitSeverity : Option Severity} {globs : List Glob}
      {allow disallow visible allowAssembly disallowAssembly : List Edit}
      (hdependency : dependencySeverity.map Severity.text = f.dependencySeverity.map (·.text))
      (hlimit : limitSeverity.map Severity.text = f.limitSeverity.map (·.text))
      (hglobs : List.Forall₂ (fun t glob => Glob.parse t.text = .ok glob) f.excluded globs)
      (hallow : List.Forall₂ (MeansAllow (kindOf f)) f.allowed allow)
      (hdisallow : List.Forall₂ (MeansEntry (kindOf f) .addDisallow) f.disallowed disallow)
      (hvisible : List.Forall₂ MeansMembers f.visibleMembers visible)
      (hallowAssembly :
        List.Forall₂ (MeansEntry (kindOf f) .addAllowAssembly) f.allowedAssembly allowAssembly)
      (hdisallowAssembly :
        List.Forall₂ (MeansEntry (kindOf f) .addDisallowAssembly) f.disallowedAssembly
          disallowAssembly) :
      MeansEdits f
        ([.setEnabled f.enabled, .setChildMayUseParent f.childMayUseParent,
          .setParentMayUseChild f.parentMayUseChild, .setMaxIssues f.maxIssues,
          .setDependencySeverity dependencySeverity, .setLimitSeverity limitSeverity,
          .setCheckAssemblies f.checkAssemblies, .addExcluded globs] ++
          allow ++ disallow ++ visible ++ allowAssembly ++ disallowAssembly)

/-- What comes of a file. -/
inductive Outcome (f : PolicyFile) : Except Rejection Draft → Prop
  | rejected {before after : List NamedText} {t : NamedText} {r : Rejection}
      (htexts : textsOf f = before ++ t :: after) (hbefore : ∀ b ∈ before, b.rejection? = none)
      (hrejected : t.rejection? = some r) : Outcome f (.error r)
  | accepted {edits : List Edit} (htexts : ∀ t ∈ textsOf f, t.rejection? = none)
      (hedits : MeansEdits f edits) : Outcome f (.ok (.ofEdits edits))

/-- The result of reading some texts in order: the first rejection there is, or else a result of
which `P` holds. -/
structure Answers {α : Type} (texts : List NamedText) (P : α → Prop)
    (result : Except Rejection α) : Prop where
  rejected : ∀ r, texts.findSome? NamedText.rejection? = some r → result = .error r
  accepted : texts.findSome? NamedText.rejection? = none → ∃ a, result = .ok a ∧ P a

section Answers

variable {α β : Type} {texts others : List NamedText} {t : NamedText} {P : α → Prop}
  {Q : β → Prop} {result : Except Rejection α}

theorem answers_ok {a : α} (h : P a) : Answers [] P (.ok a) where
  rejected := fun _ hr => absurd hr (by simp)
  accepted := fun _ => ⟨a, rfl, h⟩

theorem answers_singleton (hrejected : ∀ r, t.rejection? = some r → result = .error r)
    (hnone : t.rejection? = none → ∃ a, result = .ok a ∧ P a) : Answers [t] P result := by
  constructor
  · rwa [List.findSome?_singleton]
  · rwa [List.findSome?_singleton]

theorem Answers.bind {next : α → Except Rejection β} (h : Answers texts P result)
    (hnext : ∀ a, P a → Answers others Q (next a)) :
    Answers (texts ++ others) Q (result >>= next) := by
  cases htexts : texts.findSome? NamedText.rejection? with
  | some r =>
      have hresult := h.rejected r htexts
      constructor
      · intro r' hr'
        rw [List.findSome?_append, htexts, Option.some_or] at hr'
        rw [hresult, ← Option.some.inj hr']
        rfl
      · intro hnone
        simp [List.findSome?_append, htexts] at hnone
  | none =>
      obtain ⟨a, rfl, ha⟩ := h.accepted htexts
      constructor
      · rw [List.findSome?_append, htexts, Option.none_or]
        exact (hnext a ha).rejected
      · rw [List.findSome?_append, htexts, Option.none_or]
        exact (hnext a ha).accepted

theorem Answers.map {f : α → β} (h : Answers texts P result) (hf : ∀ a, P a → Q (f a)) :
    Answers texts Q (result.map f) := by
  have hmap : result.map f = result >>= fun a => .ok (f a) := by cases result <;> rfl
  rw [hmap, ← List.append_nil texts]
  exact h.bind fun a ha => answers_ok (hf a ha)

theorem answers_readOptional {read : LocatedText → Except Rejection β} {role : Role}
    {name : String} {R : LocatedText → β → Prop}
    (h : ∀ t, Answers [⟨role, name, t⟩] (R t) (read t)) (t : Option LocatedText) :
    Answers (settingOf role name t) (Option.Rel R t) (readOptional read t) := by
  cases t with
  | none => exact answers_ok .none
  | some t => exact (h t).map fun _ => .some

theorem answers_readAll {read : Nat → α → Except Rejection β} {texts : Nat → α → List NamedText}
    {R : α → β → Prop} (h : ∀ i a, Answers (texts i a) (R a) (read i a)) (start : Nat)
    (entries : List α) :
    Answers (entriesOf (fun i => texts (start + i)) entries) (List.Forall₂ R entries)
      (readAll read start entries) := by
  induction entries generalizing start with
  | nil => exact answers_ok .nil
  | cons entry rest ih =>
      have htexts : entriesOf (fun i => texts (start + i)) (entry :: rest) =
          texts start entry ++ (entriesOf (fun i => texts (start + 1 + i)) rest ++ []) := by
        simp [entriesOf, List.mapIdx_cons, Nat.add_right_comm, Nat.add_assoc]
      rw [htexts, readAll]
      refine (h start entry).bind fun b hb => (ih (start + 1)).bind fun bs hbs => ?_
      exact answers_ok (.cons hb hbs)

end Answers

theorem answers_oneOf {α : Type} {P : α → Prop} {result : Except Rejection α}
    {values : List String} {name : String} {t : LocatedText}
    (hunknown : t.text ∉ values →
      result = .error ⟨name, t.span, .unknownValue t.text values⟩)
    (hknown : t.text ∈ values → ∃ a, result = .ok a ∧ P a) :
    Answers [⟨.oneOf values, name, t⟩] P result := by
  by_cases h : t.text ∈ values
  · have hfault : (Role.oneOf values).fault? t.text = none := if_pos h
    apply answers_singleton
    · intro r hr
      simp [NamedText.rejection?, hfault] at hr
    · exact fun _ => hknown h
  · have hfault : (Role.oneOf values).fault? t.text = some (.unknownValue t.text values) :=
      if_neg h
    apply answers_singleton
    · intro r hr
      rw [NamedText.rejection?, hfault] at hr
      rw [hunknown h, ← Option.some.inj hr]
    · intro hnone
      simp [NamedText.rejection?, hfault] at hnone

theorem answers_mapError {α ε : Type} {role : Role} {name : String} {t : LocatedText}
    {parsed : Except ε α} {cause : ε → RejectionCause}
    (hfault : role.fault? t.text = (errorOf? parsed).map cause) :
    Answers [⟨role, name, t⟩] (fun a => parsed = .ok a)
      (parsed.mapError fun e => ⟨name, t.span, cause e⟩) := by
  cases parsed with
  | ok a =>
      apply answers_singleton
      · intro r hr
        simp [NamedText.rejection?, hfault, errorOf?] at hr
      · exact fun _ => ⟨a, rfl, rfl⟩
  | error e =>
      apply answers_singleton
      · intro r hr
        rw [NamedText.rejection?, hfault] at hr
        exact congrArg Except.error (Option.some.inj hr)
      · intro hnone
        simp [NamedText.rejection?, hfault, errorOf?] at hnone

theorem answers_readSyntax (t : LocatedText) :
    Answers [⟨.oneOf ["wildcard", "tree"], "pattern_syntax", t⟩]
      (fun kind => kind = if t.text = "tree" then .tree else .wildcard) (readSyntax t) := by
  obtain ⟨value, span⟩ := t
  apply answers_oneOf
  · intro hvalue
    simp only [List.mem_cons, List.not_mem_nil, or_false, not_or] at hvalue
    unfold readSyntax
    split
    · next h => exact absurd h hvalue.1
    · next h => exact absurd h hvalue.2
    · rfl
  · intro hvalue
    rcases List.mem_pair.mp hvalue with h | h
    · cases h
      exact ⟨_, rfl, rfl⟩
    · cases h
      exact ⟨_, rfl, rfl⟩

theorem answers_readSeverity (name : String) (t : LocatedText) :
    Answers [⟨severity, name, t⟩] (fun found => found.text = t.text) (readSeverity name t) := by
  obtain ⟨value, span⟩ := t
  apply answers_oneOf
  · intro hvalue
    have hnone : Severity.ofText? value = none := by
      unfold Severity.ofText?
      split <;> simp_all
    simp only [readSeverity, hnone]
  · intro hvalue
    simp only [List.mem_cons, List.not_mem_nil, or_false] at hvalue
    rcases hvalue with rfl | rfl | rfl
    all_goals exact ⟨_, rfl, rfl⟩

theorem entryName_eq {heading opened : String} (h : heading ++ "[" = opened) {i : Nat} :
    entryName heading i = opened ++ toString i ++ "]" := by
  rw [entryName, h]

theorem answers_readGlob (i : Nat) (t : LocatedText) :
    Answers [⟨.glob, "excluded_files[" ++ toString i ++ "]", t⟩]
      (fun glob => Glob.parse t.text = .ok glob) (readGlob i t) := by
  rw [readGlob, entryName_eq rfl]
  exact answers_mapError (by rw [Role.fault?])

theorem answers_readPattern (kind : PatternSyntax) (name : String) (t : LocatedText) :
    Answers [⟨.pattern kind, name, t⟩] (fun p => Pattern.parse kind t.text = .ok p)
      (readPattern kind name t) := by
  rw [readPattern]
  exact answers_mapError (by rw [Role.fault?])

theorem answers_readRule (kind : PatternSyntax) (name : String) (source target : LocatedText) :
    Answers (sidesOf kind name source target) (MeansRule kind source target)
      (readRule kind name source target) := by
  have hsides : sidesOf kind name source target =
      [⟨.pattern kind, name ++ ".from", source⟩] ++
        ([⟨.pattern kind, name ++ ".to", target⟩] ++ []) :=
    rfl
  rw [hsides, readRule]
  refine (answers_readPattern ..).bind fun a ha => ?_
  refine (answers_readPattern ..).bind fun b hb => ?_
  exact answers_ok ⟨ha, hb⟩

theorem answers_readMembers (i : Nat) (e : MembersEntry) :
    Answers [⟨.domain, "visible-members[" ++ toString i ++ "].of_namespace", e.namespaceName⟩]
      (fun row => MeansMembers e (.addVisible row.1 row.2)) (readMembers i e) := by
  have hname : entryName "visible-members" i ++ ".of_namespace" =
      "visible-members[" ++ toString i ++ "].of_namespace" := by
    rw [entryName_eq rfl, String.append_assoc]
    rfl
  rw [readMembers, hname, ← List.append_nil [_]]
  refine (answers_mapError (by rw [Role.fault?])).bind fun ns hns => ?_
  exact answers_ok ⟨hns⟩

theorem answers_readAllow (kind : PatternSyntax) (i : Nat) (e : AllowEntry) :
    Answers (sidesOf kind ("allowed[" ++ toString i ++ "]") e.source e.target)
      (fun row => MeansAllow kind e (.addAllow row.1 row.2)) (readAllow kind i e) := by
  rw [← List.append_nil (sidesOf ..), readAllow, entryName_eq rfl]
  exact (answers_readRule ..).bind fun rule hrule => answers_ok ⟨hrule⟩

theorem answers_entries {α β : Type} {read : Nat → α → Except Rejection β}
    {texts : Nat → α → List NamedText} {R : α → β → Prop}
    (h : ∀ i a, Answers (texts i a) (R a) (read i a)) (entries : List α) :
    Answers (entriesOf texts entries) (List.Forall₂ R entries) (readAll read 0 entries) := by
  have hall := answers_readAll h 0 entries
  simpa only [Nat.zero_add] using hall

theorem answers_rules (kind : PatternSyntax) (heading : String) (add : Rule → Edit)
    (entries : List RuleEntry) :
    Answers (rulesOf kind heading entries)
      (List.Forall₂ (fun e rule => MeansEntry kind add e (add rule)) entries)
      (readAll (readEntry kind heading) 0 entries) := by
  apply answers_entries
  intro i e
  have hrule := answers_readRule kind (entryName heading i) e.source e.target
  rw [← List.append_nil (sidesOf ..), ← bind_pure (readEntry kind heading i e), readEntry]
  exact hrule.bind fun rule hrule => answers_ok ⟨hrule⟩

theorem kindOf_eq {f : PolicyFile} {kind : Option PatternSyntax}
    (h : Option.Rel (fun t kind => kind = if t.text = "tree" then .tree else .wildcard)
      f.patternSyntax kind) : kind.getD .wildcard = kindOf f := by
  rw [kindOf]
  generalize f.patternSyntax = t at h
  cases h with
  | none => rfl
  | some hkind => simp [hkind]

theorem text_of_rel {t : Option LocatedText} {severity : Option Severity}
    (h : Option.Rel (fun t severity => severity.text = t.text) t severity) :
    severity.map Severity.text = t.map (·.text) := by
  cases h with
  | none => rfl
  | some h => exact congrArg some h

theorem editAll_map {α : Type} {toEdit : α → Edit} (add : Draft → α → Draft)
    (h : ∀ d a, d.edit (toEdit a) = add d a) (items : List α) (d : Draft) :
    d.editAll (items.map toEdit) = items.foldl add d := by
  induction items generalizing d with
  | nil => rfl
  | cons a rest ih => rw [List.map_cons, Draft.editAll, h, ih, List.foldl_cons]

theorem answers_draft (f : PolicyFile) :
    Answers (textsOf f) (fun d => ∃ edits, MeansEdits f edits ∧ d = .ofEdits edits) f.draft := by
  rw [← List.append_nil (textsOf f)]
  simp only [textsOf, List.append_assoc]
  refine (answers_readOptional answers_readSyntax _).bind fun kind hkind => ?_
  refine (answers_readOptional (answers_readSeverity _) _).bind fun dependency hdependency => ?_
  refine (answers_readOptional (answers_readSeverity _) _).bind fun limit hlimit => ?_
  refine (answers_entries answers_readGlob _).bind fun globs hglobs => ?_
  rw [kindOf_eq hkind]
  refine (answers_entries (answers_readAllow _) _).bind fun allowed hallowed => ?_
  refine (answers_rules _ _ .addDisallow _).bind fun disallowed hdisallowed => ?_
  refine (answers_entries answers_readMembers _).bind fun visible hvisible => ?_
  refine (answers_rules _ _ .addAllowAssembly _).bind fun allowedAssembly hallowedAssembly => ?_
  refine (answers_rules _ _ .addDisallowAssembly _).bind
    fun disallowedAssembly hdisallowedAssembly => ?_
  refine answers_ok ⟨_, .mk (text_of_rel hdependency) (text_of_rel hlimit) hglobs
    (List.forall₂_map_right_iff.mpr hallowed) (List.forall₂_map_right_iff.mpr hdisallowed)
    (List.forall₂_map_right_iff.mpr hvisible) (List.forall₂_map_right_iff.mpr hallowedAssembly)
    (List.forall₂_map_right_iff.mpr hdisallowedAssembly), ?_⟩
  simp only [ofEdits_append]
  rw [editAll_map Draft.addDisallowAssembly fun _ _ => rfl,
    editAll_map Draft.addAllowAssembly fun _ _ => rfl,
    editAll_map (fun d row => d.addVisible row.1 row.2) fun _ _ => rfl,
    editAll_map Draft.addDisallow fun _ _ => rfl,
    editAll_map (fun d row => d.addAllow row.1 row.2) fun _ _ => rfl]
  rfl

section Unique

variable {kind : PatternSyntax}

theorem MeansRule.unique {source target : LocatedText} {rule rule' : Rule}
    (h : MeansRule kind source target rule) (h' : MeansRule kind source target rule') :
    rule = rule' := by
  have hsource := Except.ok.inj (h.source.symm.trans h'.source)
  have htarget := Except.ok.inj (h.target.symm.trans h'.target)
  obtain ⟨source, target⟩ := rule
  obtain ⟨source', target'⟩ := rule'
  exact congrArg₂ Rule.mk hsource htarget

theorem rightUnique_meansAllow : Relator.RightUnique (MeansAllow kind) := by
  rintro e _ _ ⟨hrule⟩ ⟨hrule'⟩
  rw [hrule.unique hrule']

theorem rightUnique_meansEntry (add : Rule → Edit) :
    Relator.RightUnique (MeansEntry kind add) := by
  rintro e _ _ ⟨hrule⟩ ⟨hrule'⟩
  rw [hrule.unique hrule']

theorem rightUnique_meansMembers : Relator.RightUnique MeansMembers := by
  rintro e _ _ ⟨hns⟩ ⟨hns'⟩
  rw [Except.ok.inj (hns.symm.trans hns')]

theorem severityText_injective : Function.Injective Severity.text := by
  intro a b h
  apply Option.some.inj
  rw [← Severity.ofText?_text a, h, Severity.ofText?_text]

theorem MeansEdits.unique {f : PolicyFile} {edits edits' : List Edit} (h : MeansEdits f edits)
    (h' : MeansEdits f edits') : edits = edits' := by
  obtain ⟨hdependency, hlimit, hglobs, hallow, hdisallow, hvisible, hallowA, hdisallowA⟩ := h
  obtain ⟨hdependency', hlimit', hglobs', hallow', hdisallow', hvisible', hallowA',
    hdisallowA'⟩ := h'
  have hseverity := Option.map_injective severityText_injective
  have hglob : Relator.RightUnique fun (t : LocatedText) glob => Glob.parse t.text = .ok glob :=
    fun t g g' hg hg' => Except.ok.inj (hg.symm.trans hg')
  rw [hseverity (hdependency.trans hdependency'.symm), hseverity (hlimit.trans hlimit'.symm),
    hglob.forall₂ hglobs hglobs', rightUnique_meansAllow.forall₂ hallow hallow',
    (rightUnique_meansEntry _).forall₂ hdisallow hdisallow',
    rightUnique_meansMembers.forall₂ hvisible hvisible',
    (rightUnique_meansEntry _).forall₂ hallowA hallowA',
    (rightUnique_meansEntry _).forall₂ hdisallowA hdisallowA']

end Unique

/-- A file is rejected exactly when one of its texts means nothing, and then for the first such
text; otherwise its draft is what its edits make. -/
theorem draft_eq_iff_outcome (f : PolicyFile) (result : Except Rejection Draft) :
    f.draft = result ↔ Outcome f result := by
  have hanswers := answers_draft f
  constructor
  · rintro rfl
    cases htexts : (textsOf f).findSome? NamedText.rejection? with
    | some r =>
        obtain ⟨before, t, after, hsplit, ht, hbefore⟩ := List.findSome?_eq_some_iff.mp htexts
        rw [hanswers.rejected r htexts]
        exact .rejected hsplit hbefore ht
    | none =>
        obtain ⟨d, hd, edits, hedits, rfl⟩ := hanswers.accepted htexts
        rw [hd]
        exact .accepted (List.findSome?_eq_none_iff.mp htexts) hedits
  · intro h
    cases h with
    | rejected hsplit hbefore hrejected =>
        apply hanswers.rejected
        exact List.findSome?_eq_some_iff.mpr ⟨_, _, _, hsplit, hrejected, hbefore⟩
    | accepted htexts hedits =>
        obtain ⟨d, hd, others, hothers, rfl⟩ :=
          hanswers.accepted (List.findSome?_eq_none_iff.mpr htexts)
        rw [hd, hedits.unique hothers]

/-- Of three texts that mean nothing, the one on the using side of the second allow rule comes
first. -/
example :
    let lib : LocatedText := ⟨"Lib", ⟨10, 15⟩⟩
    let f : PolicyFile :=
      { allowed := [⟨lib, lib, []⟩, ⟨⟨"A..B", ⟨40, 46⟩⟩, ⟨".B", ⟨50, 54⟩⟩, []⟩]
        disallowed := [⟨⟨"A.", ⟨20, 24⟩⟩, lib⟩] }
    f.draft = .error ⟨"allowed[1].from", ⟨40, 46⟩, .pattern (.emptyComponent "A..B")⟩ := by
  decide +kernel

end NamespacePolicy.Proofs.FirstRejection
