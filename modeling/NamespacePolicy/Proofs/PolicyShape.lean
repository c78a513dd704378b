import NamespacePolicy.PolicyFile.Parse
import NamespacePolicy.Proofs.DocumentKeys

/-!
What a policy file may hold, and what is read of it.  A document is accepted if and only if each of
its keys is known and has a value of its type, and then nothing of the document is left out.
-/

namespace NamespacePolicy.Proofs.PolicyShape

open Text Toml PolicyFile
open NamespacePolicy.Proofs.DocumentKeys
open NamespacePolicy.Proofs.Records

inductive IsBoolean : Node → Prop
  | boolean (span : Span) (value : Bool) : IsBoolean (.boolean span value)

inductive IsLimit : Node → Prop
  | integer (span : Span) (n : Nat) : IsLimit (.integer span n)

inductive IsText : Node → Prop
  | string (span : Span) (text : String) : IsText (.string span text)

/-- A list of values in brackets, or one of tables with headers. -/
inductive IsList (IsItem : Node → Prop) : Node → Prop
  | array (span : Span) {items : List Node} (h : ∀ item ∈ items, IsItem item) :
      IsList IsItem (.array span items)
  | tables (span : Option Span) {items : List Node} (h : ∀ item ∈ items, IsItem item) :
      IsList IsItem (.tables span items)

structure KeyType where
  name : String
  required : Bool
  IsValue : Node → Prop

/-- Every key is known and has a value of its type, and no key is left out that has to be there. -/
structure WellShaped (keys : List KeyType) (entries : Entries) : Prop where
  known : ∀ e ∈ entries, ∃ k ∈ keys, k.name = e.1.text ∧ k.IsValue e.2
  complete : ∀ k ∈ keys, k.required = true → ∃ e ∈ entries, e.1.text = k.name

inductive IsTable (keys : List KeyType) : Node → Prop
  | table (span : Option Span) (form : TableForm) {entries : Entries}
      (h : WellShaped keys entries) : IsTable keys (.table span form entries)

def ruleKeys : List KeyType := [⟨"from", true, IsText⟩, ⟨"to", true, IsText⟩]

def allowKeys : List KeyType := ruleKeys ++ [⟨"visible_types", false, IsList IsText⟩]

def membersKeys : List KeyType :=
  [⟨"of_namespace", true, IsText⟩, ⟨"types", true, IsList IsText⟩]

def policyKeys : List KeyType :=
  [⟨"is_enabled", false, IsBoolean⟩,
    ⟨"child_can_depend_on_parent_implicitly", false, IsBoolean⟩,
    ⟨"parent_can_depend_on_child_implicitly", false, IsBoolean⟩,
    ⟨"max_issue_count", false, IsLimit⟩,
    ⟨"dependency_issue_severity", false, IsText⟩,
    ⟨"max_issue_count_severity", false, IsText⟩,
    ⟨"check_assembly_dependencies", false, IsBoolean⟩,
    ⟨"excluded_files", false, IsList IsText⟩,
    ⟨"pattern_syntax", false, IsText⟩,
    ⟨"allowed", false, IsList (IsTable allowKeys)⟩,
    ⟨"disallowed", false, IsList (IsTable ruleKeys)⟩,
    ⟨"visible-members", false, IsList (IsTable membersKeys)⟩,
    ⟨"allowed-assembly", false, IsList (IsTable ruleKeys)⟩,
    ⟨"disallowed-assembly", false, IsList (IsTable ruleKeys)⟩]

inductive MeansBoolean : Node → Bool → Prop
  | boolean (span : Span) (value : Bool) : MeansBoolean (.boolean span value) value

inductive MeansLimit : Node → Nat → Prop
  | integer (span : Span) (n : Nat) : MeansLimit (.integer span n) n

inductive MeansText : Node → String → Prop
  | string (span : Span) (text : String) : MeansText (.string span text) text

inductive MeansLocated : Node → LocatedText → Prop
  | string (span : Span) (text : String) : MeansLocated (.string span text) ⟨text, span⟩

inductive MeansList {α : Type} (Means : Node → α → Prop) : Node → List α → Prop
  | array (span : Span) {items : List Node} {as : List α} (h : List.Forall₂ Means items as) :
      MeansList Means (.array span items) as
  | tables (span : Option Span) {items : List Node} {as : List α}
      (h : List.Forall₂ Means items as) : MeansList Means (.tables span items) as

/-- A key of the given name has the value. -/
def HasValue (entries : Entries) (name : String) (node : Node) : Prop :=
  ∃ key, key.text = name ∧ (key, node) ∈ entries

/-- The key is there, and whatever is given for it has the same meaning. -/
structure Gives {α : Type} (entries : Entries) (name : String) (Means : Node → α → Prop) (a : α) :
    Prop where
  given : ∃ node, HasValue entries name node
  means : ∀ node, HasValue entries name node → Means node a

def Lacks (entries : Entries) (name : String) : Prop := ∀ node, ¬ HasValue entries name node

inductive GivesOptional {α : Type} (entries : Entries) (name : String) (Means : Node → α → Prop) :
    Option α → Prop
  | absent (h : Lacks entries name) : GivesOptional entries name Means none
  | present {a : α} (h : Gives entries name Means a) : GivesOptional entries name Means (some a)

inductive GivesList {α : Type} (entries : Entries) (name : String) (Means : Node → α → Prop) :
    List α → Prop
  | absent (h : Lacks entries name) : GivesList entries name Means []
  | present {as : List α} (h : Gives entries name (MeansList Means) as) :
      GivesList entries name Means as

inductive MeansTable {α : Type} (Means : Entries → α → Prop) : Node → α → Prop
  | table (span : Option Span) (form : TableForm) {entries : Entries} {a : α}
      (h : Means entries a) : MeansTable Means (.table span form entries) a

structure MeansAllow (entries : Entries) (e : AllowEntry) : Prop where
  source : Gives entries "from" MeansLocated e.source
  target : Gives entries "to" MeansLocated e.target
  visible : GivesList entries "visible_types" MeansText e.visible

structure MeansRule (entries : Entries) (e : RuleEntry) : Prop where
  source : Gives entries "from" MeansLocated e.source
  target : Gives entries "to" MeansLocated e.target

structure MeansMembers (entries : Entries) (e : MembersEntry) : Prop where
  namespaceName : Gives entries "of_namespace" MeansLocated e.namespaceName
  types : Gives entries "types" (MeansList MeansText) e.types

/-- The fields of the policy file are the values of the document. -/
structure MeansPolicy (entries : Entries) (f : PolicyFile) : Prop where
  enabled : GivesOptional entries "is_enabled" MeansBoolean f.enabled
  childMayUseParent :
    GivesOptional entries "child_can_depend_on_parent_implicitly" MeansBoolean f.childMayUseParent
  parentMayUseChild :
    GivesOptional entries "parent_can_depend_on_child_implicitly" MeansBoolean f.parentMayUseChild
  maxIssues : GivesOptional entries "max_issue_count" MeansLimit f.maxIssues
  dependencySeverity :
    GivesOptional entries "dependency_issue_severity" MeansLocated f.dependencySeverity
  limitSeverity : GivesOptional entries "max_issue_count_severity" MeansLocated f.limitSeverity
  checkAssemblies :
    GivesOptional entries "check_assembly_dependencies" MeansBoolean f.checkAssemblies
  excluded : GivesList entries "excluded_files" MeansLocated f.excluded
  patternSyntax : GivesOptional entries "pattern_syntax" MeansLocated f.patternSyntax
  allowed : GivesList entries "allowed" (MeansTable MeansAllow) f.allowed
  disallowed : GivesList entries "disallowed" (MeansTable MeansRule) f.disallowed
  visibleMembers : GivesList entries "visible-members" (MeansTable MeansMembers) f.visibleMembers
  allowedAssembly : GivesList entries "allowed-assembly" (MeansTable MeansRule) f.allowedAssembly
  disallowedAssembly :
    GivesList entries "disallowed-assembly" (MeansTable MeansRule) f.disallowedAssembly

/-- Of the nodes in some domain the reader takes just those of a type, and what it gives is what
they mean. -/
structure Decodes {α : Type} (Domain : Node → Prop) (read : Read α) (IsValue : Node → Prop)
    (Means : Node → α → Prop) : Prop where
  accepts : ∀ p, Domain p.node → ((∃ a, read p = .ok a) ↔ IsValue p.node)
  means : ∀ p a, Domain p.node → read p = .ok a → Means p.node a

def Anything (_ : Node) : Prop := True

/-- All items of the node, if it is a list, lie in the domain. -/
def Items (Domain : Node → Prop) (node : Node) : Prop :=
  ∀ items, items? node = some items → ∀ item ∈ items, Domain item

section Values

variable {α : Type} {Domain Smaller IsValue : Node → Prop} {read : Read α}
  {Means : Node → α → Prop}

theorem Decodes.mono (h : Decodes Domain read IsValue Means)
    (hdomain : ∀ node, Smaller node → Domain node) : Decodes Smaller read IsValue Means :=
  ⟨fun p hp => h.accepts p (hdomain _ hp), fun p a hp => h.means p a (hdomain _ hp)⟩

theorem decodes_of_eq_ok_iff (hread : ∀ p a, read p = .ok a ↔ Means p.node a)
    (hvalue : ∀ node, (∃ a, Means node a) ↔ IsValue node) :
    Decodes Anything read IsValue Means where
  accepts p _ := by
    simp only [hread]
    exact hvalue p.node
  means p a _ := (hread p a).mp

theorem decodes_boolean : Decodes Anything boolean IsBoolean MeansBoolean := by
  refine decodes_of_eq_ok_iff (fun ⟨node, place⟩ a => ⟨fun h => ?_, ?_⟩) fun node => ⟨?_, ?_⟩
  · cases node <;> cases h
    exact .boolean _ _
  · rintro ⟨⟩
    rfl
  · rintro ⟨a, ⟨⟩⟩
    exact .boolean _ _
  · rintro ⟨⟩
    exact ⟨_, .boolean _ _⟩

theorem decodes_natural : Decodes Anything natural IsLimit MeansLimit := by
  refine decodes_of_eq_ok_iff (fun ⟨node, place⟩ a => ⟨fun h => ?_, ?_⟩) fun node => ⟨?_, ?_⟩
  · cases node with
    | integer span value =>
        cases value <;> cases h
        exact .integer _ _
    | _ => cases h
  · rintro ⟨⟩
    rfl
  · rintro ⟨a, ⟨⟩⟩
    exact .integer _ _
  · rintro ⟨⟩
    exact ⟨_, .integer _ _⟩

theorem decodes_string : Decodes Anything string IsText MeansText := by
  refine decodes_of_eq_ok_iff (fun ⟨node, place⟩ a => ⟨fun h => ?_, ?_⟩) fun node => ⟨?_, ?_⟩
  · cases node <;> cases h
    exact .string _ _
  · rintro ⟨⟩
    rfl
  · rintro ⟨a, ⟨⟩⟩
    exact .string _ _
  · rintro ⟨⟩
    exact ⟨_, .string _ _⟩

theorem decodes_locatedText : Decodes Anything locatedText IsText MeansLocated := by
  refine decodes_of_eq_ok_iff (fun ⟨node, place⟩ a => ⟨fun h => ?_, ?_⟩) fun node => ⟨?_, ?_⟩
  · revert h
    fun_cases locatedText ⟨node, place⟩ with
    | case1 place span text =>
        intro h
        cases h
        exact .string _ _
    | case2 => exact fun h => nomatch h
    | case3 => exact fun h => nomatch h
  · rintro ⟨⟩
    rfl
  · rintro ⟨a, ⟨⟩⟩
    exact .string _ _
  · rintro ⟨⟩
    exact ⟨_, .string _ _⟩

theorem isList_iff {node : Node} :
    IsList IsValue node ↔ ∃ items, items? node = some items ∧ ∀ item ∈ items, IsValue item := by
  constructor
  · rintro (⟨span, h⟩ | ⟨span, h⟩)
    · exact ⟨_, rfl, h⟩
    · exact ⟨_, rfl, h⟩
  · rintro ⟨items, hitems, h⟩
    cases node <;> cases hitems
    · exact .array _ h
    · exact .tables _ h

theorem meansList_iff {node : Node} {as : List α} :
    MeansList Means node as ↔ ∃ items, items? node = some items ∧ List.Forall₂ Means items as := by
  constructor
  · rintro (⟨span, h⟩ | ⟨span, h⟩)
    · exact ⟨_, rfl, h⟩
    · exact ⟨_, rfl, h⟩
  · rintro ⟨items, hitems, h⟩
    cases node <;> cases hitems
    · exact .array _ h
    · exact .tables _ h

theorem list_eq_ok_iff {p : Placed} {as : List α} :
    list read p = .ok as ↔
      ∃ items, items? p.node = some items ∧
        items.mapM (fun item => read (placed item p.place)) = .ok as := by
  rw [list]
  cases items? p.node <;> simp

theorem decodes_list (h : Decodes Domain read IsValue Means) :
    Decodes (Items Domain) (list read) (IsList IsValue) (MeansList Means) where
  accepts p hp := by
    simp only [list_eq_ok_iff, isList_iff]
    rw [exists_comm]
    simp only [exists_and_left, exists_mapM_eq_ok_iff]
    refine exists_congr fun items => and_congr_right fun hitems => ?_
    exact forall₂_congr fun item hitem =>
      h.accepts (placed item p.place) (hp items hitems item hitem)
  means p as hp has := by
    obtain ⟨items, hitems, has⟩ := list_eq_ok_iff.mp has
    refine meansList_iff.mpr ⟨items, hitems, ?_⟩
    have hall := (List.forall₂_and_left _ _).mpr ⟨hp items hitems, mapM_eq_ok_iff.mp has⟩
    exact hall.imp fun item a ⟨hitem, ha⟩ => h.means (placed item p.place) a hitem ha

theorem decodes_anyList (h : Decodes Anything read IsValue Means) :
    Decodes Anything (list read) (IsList IsValue) (MeansList Means) :=
  (decodes_list h).mono fun _ _ _ _ _ _ => trivial

end Values

/-- The members of a table under the names of their keys. -/
def membersOf (entries : Entries) : Members Placed :=
  entries.map fun (key, node) => (key.text, placed node key.span)

section Tables

variable {s : PolicyFile.Shape} {entries : Entries} {ms : Members Placed} {name : String}

theorem hasValue_iff {node : Node} :
    HasValue entries name node ↔ ∃ p, (name, p) ∈ membersOf entries ∧ p.node = node := by
  constructor
  · rintro ⟨key, rfl, hmem⟩
    exact ⟨_, List.mem_map.mpr ⟨(key, node), hmem, rfl⟩, rfl⟩
  · rintro ⟨p, hmem, rfl⟩
    obtain ⟨⟨key, node⟩, hentry, heq⟩ := List.mem_map.mp hmem
    cases heq
    exact ⟨key, rfl, hentry⟩

theorem nodup_membersOf (h : DistinctEntries entries) :
    ((membersOf entries).map (·.1)).Nodup := by
  rw [membersOf, List.map_map]
  exact h.keys

theorem checkEntries_eq_ok_iff :
    checkEntries s entries = .ok ms ↔ ms = membersOf entries ∧ Checked s (membersOf entries) := by
  induction entries generalizing ms with
  | nil =>
      simp [checkEntries, membersOf, Checked, eq_comm]
  | cons e entries ih =>
      obtain ⟨key, node⟩ := e
      rw [Checked, membersOf, List.map_cons, List.forall_mem_cons, ← membersOf, ← Checked,
        checkEntries]
      cases hfield : s.field? key.text with
      | none => simp
      | some field =>
          simp only [bind_eq_ok_iff, ih, Option.some.injEq, exists_eq_left']
          constructor
          · rintro ⟨⟨⟩, hcheck, rest, ⟨rfl, hrest⟩, h⟩
            cases h
            exact ⟨rfl, hcheck, hrest⟩
          · rintro ⟨rfl, hcheck, hrest⟩
            exact ⟨(), hcheck, _, ⟨rfl, hrest⟩, rfl⟩

theorem members_eq_ok_iff {span : Option Span} {form : TableForm} {place : Span} :
    PolicyFile.members s ⟨.table span form entries, place⟩ = .ok ms ↔
      ms = membersOf entries ∧ Checked s (membersOf entries) ∧
        s.missing? (membersOf entries) = none := by
  simp only [PolicyFile.members, bind_eq_ok_iff, checkEntries_eq_ok_iff]
  constructor
  · rintro ⟨read, ⟨rfl, hchecked⟩, h⟩
    cases hmissing : s.missing? (membersOf entries) with
    | none =>
        simp only [hmissing] at h
        cases h
        exact ⟨rfl, hchecked, rfl⟩
    | some missing =>
        simp only [hmissing] at h
        cases h
  · rintro ⟨rfl, hchecked, hmissing⟩
    refine ⟨_, ⟨rfl, hchecked⟩, ?_⟩
    simp only [hmissing]
    rfl

/-- The field takes just the values of the type of the key, as far as they lie in its domain. -/
structure MatchesKey (Domain : String → Node → Prop) (field : Field Placed ShapeError)
    (key : KeyType) : Prop where
  name : field.name = key.name
  required : field.required = key.required
  check : ∀ p, Domain field.name p.node → (field.check p = .ok () ↔ key.IsValue p.node)

abbrev Matches (Domain : String → Node → Prop) (s : PolicyFile.Shape) (keys : List KeyType) :
    Prop :=
  List.Forall₂ (MatchesKey Domain) s.fields keys

theorem exists_forall₂_iff {α β : Type} {R : α → β → Prop} {P : α → Prop} {Q : β → Prop}
    {as : List α} {bs : List β} (h : List.Forall₂ R as bs) (hiff : ∀ a b, R a b → (P a ↔ Q b)) :
    (∃ a ∈ as, P a) ↔ ∃ b ∈ bs, Q b := by
  induction h with
  | nil => simp
  | cons hfirst _ ih => simp [hiff _ _ hfirst, ih]

theorem forall_forall₂_iff {α β : Type} {R : α → β → Prop} {P : α → Prop} {Q : β → Prop}
    {as : List α} {bs : List β} (h : List.Forall₂ R as bs) (hiff : ∀ a b, R a b → (P a ↔ Q b)) :
    (∀ a ∈ as, P a) ↔ ∀ b ∈ bs, Q b := by
  induction h with
  | nil => simp
  | cons hfirst _ ih => simp [hiff _ _ hfirst, ih]

theorem wellShaped_iff {Domain : String → Node → Prop} {keys : List KeyType}
    (hmatches : Matches Domain s keys) (hnames : s.names.Nodup)
    (hdomain : ∀ e ∈ entries, Domain e.1.text e.2) :
    Checked s (membersOf entries) ∧ s.missing? (membersOf entries) = none ↔
      WellShaped keys entries := by
  have hchecked : Checked s (membersOf entries) ↔
      ∀ e ∈ entries, ∃ k ∈ keys, k.name = e.1.text ∧ k.IsValue e.2 := by
    simp only [Checked, membersOf, List.forall_mem_map, field?_eq_some_iff hnames, and_assoc]
    refine forall₂_congr fun e he => ?_
    refine exists_forall₂_iff hmatches fun field k hfield => ?_
    rw [hfield.name]
    refine and_congr_right fun hname => hfield.check (placed e.2 e.1.span) ?_
    rw [hfield.name, hname]
    exact hdomain e he
  have hmissing : s.missing? (membersOf entries) = none ↔
      ∀ k ∈ keys, k.required = true → ∃ e ∈ entries, e.1.text = k.name := by
    rw [missing?_eq_none_iff]
    refine forall_forall₂_iff hmatches fun field k hfield => ?_
    rw [hfield.name, hfield.required]
    simp [membersOf]
  rw [hchecked, hmissing]
  exact ⟨fun h => ⟨h.1, h.2⟩, fun h => ⟨h.known, h.complete⟩⟩

end Tables

section Keys

variable {α : Type} {s : PolicyFile.Shape} {entries : Entries} {name : String} {read : Read α}
  {Domain IsValue : Node → Prop} {Means : Node → α → Prop} {a : α}

theorem exists_get (h : DistinctEntries entries) (hnames : s.names.Nodup)
    (hchecked : Checked s (membersOf entries)) (hmissing : s.missing? (membersOf entries) = none)
    (hfield : .needed name read ∈ s.fields) (absent : Mismatch → ShapeError) :
    ∃ a, (membersOf entries).get name read absent = .ok a := by
  obtain ⟨v, hv⟩ := missing?_eq_none_iff.mp hmissing _ hfield rfl
  obtain ⟨a, ha⟩ := needed_check_iff.mp (((checked_iff hnames).mp hchecked).2 _ hfield v hv)
  exact ⟨a, (get_eq_ok_iff (nodup_membersOf h)).mpr ⟨v, hv, ha⟩⟩

theorem exists_getD {β : Type} {other : Read β} {default : β} (h : DistinctEntries entries)
    (hnames : s.names.Nodup) (hchecked : Checked s (membersOf entries))
    (hfield : .free name read ∈ s.fields)
    (hother : ∀ p a, read p = .ok a → ∃ b, other p = .ok b) :
    ∃ b, (membersOf entries).getD name other default = .ok b := by
  simp only [getD_eq_ok_iff (nodup_membersOf h)]
  -- A key that is there was checked, whatever is read of it now.
  by_cases hmem : ∃ v, (name, v) ∈ membersOf entries
  · obtain ⟨v, hv⟩ := hmem
    obtain ⟨a, ha⟩ := free_check_iff.mp (((checked_iff hnames).mp hchecked).2 _ hfield v hv)
    obtain ⟨b, hb⟩ := hother v a ha
    exact ⟨b, .inl ⟨v, hv, hb⟩⟩
  · exact ⟨default, .inr ⟨not_exists.mp hmem, rfl⟩⟩

theorem gives_of_mem (h : DistinctEntries entries) (hread : Decodes Domain read IsValue Means)
    {p : Placed} (hp : (name, p) ∈ membersOf entries) (hdomain : Domain p.node)
    (ha : read p = .ok a) : Gives entries name Means a where
  given := ⟨p.node, hasValue_iff.mpr ⟨p, hp, rfl⟩⟩
  means node hnode := by
    obtain ⟨other, hother, rfl⟩ := hasValue_iff.mp hnode
    rw [value_unique (nodup_membersOf h) hother hp]
    exact hread.means p a hdomain ha

theorem lacks_of_forall (h : ∀ p, (name, p) ∉ membersOf entries) : Lacks entries name := by
  intro node hnode
  obtain ⟨p, hp, -⟩ := hasValue_iff.mp hnode
  exact h p hp

theorem domain_of_mem {p : Placed} (hdomain : ∀ node, HasValue entries name node → Domain node)
    (hp : (name, p) ∈ membersOf entries) : Domain p.node :=
  hdomain _ (hasValue_iff.mpr ⟨p, hp, rfl⟩)

theorem gives_of_get (h : DistinctEntries entries) (hread : Decodes Domain read IsValue Means)
    (hdomain : ∀ node, HasValue entries name node → Domain node) {absent : Mismatch → ShapeError}
    (hget : (membersOf entries).get name read absent = .ok a) : Gives entries name Means a := by
  obtain ⟨p, hp, ha⟩ := (get_eq_ok_iff (nodup_membersOf h)).mp hget
  exact gives_of_mem h hread hp (domain_of_mem hdomain hp) ha

theorem givesOptional_of_getD {setting : Option α} (h : DistinctEntries entries)
    (hread : Decodes Domain read IsValue Means)
    (hdomain : ∀ node, HasValue entries name node → Domain node)
    (hget : (membersOf entries).getD name (fun p => (read p).map some) none = .ok setting) :
    GivesOptional entries name Means setting := by
  rcases (getD_eq_ok_iff (nodup_membersOf h)).mp hget with ⟨p, hp, hsetting⟩ | ⟨hnone, rfl⟩
  · obtain ⟨a, ha, rfl⟩ := map_eq_ok_iff.mp hsetting
    exact .present (gives_of_mem h hread hp (domain_of_mem hdomain hp) ha)
  · exact .absent (lacks_of_forall hnone)

theorem givesList_of_getD {as : List α} (h : DistinctEntries entries)
    (hread : Decodes Domain read IsValue Means)
    (hdomain : ∀ node, HasValue entries name node → Items Domain node)
    (hget : (membersOf entries).getD name (list read) [] = .ok as) :
    GivesList entries name Means as := by
  rcases (getD_eq_ok_iff (nodup_membersOf h)).mp hget with ⟨p, hp, has⟩ | ⟨hnone, rfl⟩
  · exact .present (gives_of_mem h (decodes_list hread) hp (domain_of_mem hdomain hp) has)
  · exact .absent (lacks_of_forall hnone)

end Keys

/-- The values of keys may be anything. -/
def AnyValue (_ : String) (node : Node) : Prop := Anything node

/-- The node is no list, and if it is a table, its keys are distinct. -/
structure Single (node : Node) : Prop where
  noItems : items? node = none
  distinct : ∀ span form entries, node = .table span form entries → DistinctEntries entries

/-- A record is decoded if its fields are the keys of a table, and what is built of the members is
what the entries of the table mean. -/
theorem decodes_table {α : Type} {s : PolicyFile.Shape} {keys : List KeyType}
    {Means : Entries → α → Prop} {build : Placed → Members Placed → Except ShapeError α}
    (hnames : s.names.Nodup) (hmatches : Matches AnyValue s keys)
    (hbuild : ∀ p entries, DistinctEntries entries → Checked s (membersOf entries) →
      s.missing? (membersOf entries) = none → ∃ a, build p (membersOf entries) = .ok a)
    (hmeans : ∀ p entries a, DistinctEntries entries → build p (membersOf entries) = .ok a →
      Means entries a) :
    Decodes Single (fun p => PolicyFile.members s p >>= build p) (IsTable keys)
      (MeansTable Means) where
  accepts := by
    rintro ⟨node, place⟩ hp
    cases node with
    | table span form entries =>
        have hentries := hp.distinct span form entries rfl
        have hshape : Checked s (membersOf entries) ∧ s.missing? (membersOf entries) = none ↔
            WellShaped keys entries := wellShaped_iff hmatches hnames fun _ _ => trivial
        constructor
        · rintro ⟨a, h⟩
          obtain ⟨ms, hms, -⟩ := bind_eq_ok_iff.mp h
          obtain ⟨rfl, hchecked⟩ := members_eq_ok_iff.mp hms
          exact .table span form (hshape.mp hchecked)
        · rintro ⟨_, _, h⟩
          obtain ⟨hchecked, hmissing⟩ := hshape.mpr h
          rw [members_eq_ok_iff.mpr ⟨rfl, hchecked, hmissing⟩, ok_bind]
          exact hbuild _ entries hentries hchecked hmissing
    | array => cases hp.noItems
    | tables => cases hp.noItems
    | _ => exact ⟨fun ⟨a, h⟩ => (nomatch h), fun h => nomatch h⟩
  means := by
    rintro ⟨node, place⟩ a hp h
    cases node with
    | table span form entries =>
        obtain ⟨ms, hms, h⟩ := bind_eq_ok_iff.mp h
        obtain ⟨rfl, -⟩ := members_eq_ok_iff.mp hms
        exact .table span form (hmeans _ entries a (hp.distinct span form entries rfl) h)
    | array => cases hp.noItems
    | tables => cases hp.noItems
    | _ => cases h

end NamespacePolicy.Proofs.PolicyShape
