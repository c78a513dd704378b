import Mathlib
import NamespacePolicy.Proofs.PolicyShape

/-!
The sections of a policy file, and whole files.  Each record is read as its keys are declared, so no
setting of a document is passed over without a word.
-/

namespace NamespacePolicy.Proofs.PolicyDecoding

open Text Toml PolicyFile
open NamespacePolicy.Proofs.DocumentKeys
open NamespacePolicy.Proofs.PolicyShape
open NamespacePolicy.Proofs.Records

theorem hasValue_any {entries : Entries} {name : String} (node : Node)
    (_ : HasValue entries name node) : Anything node :=
  trivial

theorem hasValue_items {entries : Entries} {name : String} (node : Node)
    (_ : HasValue entries name node) : Items Anything node :=
  fun _ _ _ _ => trivial

theorem check_needed_iff {α : Type} {Domain IsValue : Node → Prop} {read : Read α}
    {Means : Node → α → Prop} (h : Decodes Domain read IsValue Means) (name : String) (p : Placed)
    (hp : Domain p.node) : (Field.needed name read).check p = .ok () ↔ IsValue p.node :=
  needed_check_iff.trans (h.accepts p hp)

theorem check_free_iff {α : Type} {Domain IsValue : Node → Prop} {read : Read α}
    {Means : Node → α → Prop} (h : Decodes Domain read IsValue Means) (name : String) (p : Placed)
    (hp : Domain p.node) : (Field.free name read).check p = .ok () ↔ IsValue p.node :=
  free_check_iff.trans (h.accepts p hp)

theorem decodes_ruleEntry :
    Decodes Single ruleEntry (IsTable ruleKeys) (MeansTable MeansRule) := by
  have hnames : ruleShape.names.Nodup := by decide
  refine decodes_table hnames ?_ (fun p entries h hchecked hmissing => ?_)
    fun p entries e h he => ?_
  · exact .cons ⟨rfl, rfl, check_needed_iff decodes_locatedText _⟩
      (.cons ⟨rfl, rfl, check_needed_iff decodes_locatedText _⟩ .nil)
  · refine exists_bind_eq_ok (exists_get h hnames hchecked hmissing (.head _) _) fun source _ => ?_
    refine exists_bind_eq_ok (exists_get h hnames hchecked hmissing (.tail _ (.head _)) _)
      fun target _ => ?_
    exact ⟨_, rfl⟩
  · obtain ⟨source, hsource, he⟩ := bind_eq_ok_iff.mp he
    obtain ⟨target, htarget, he⟩ := bind_eq_ok_iff.mp he
    cases he
    exact ⟨gives_of_get h decodes_locatedText hasValue_any hsource,
      gives_of_get h decodes_locatedText hasValue_any htarget⟩

theorem decodes_allowEntry :
    Decodes Single allowEntry (IsTable allowKeys) (MeansTable MeansAllow) := by
  have hnames : allowShape.names.Nodup := by decide
  refine decodes_table hnames ?_ (fun p entries h hchecked hmissing => ?_)
    fun p entries e h he => ?_
  · exact .cons ⟨rfl, rfl, check_needed_iff decodes_locatedText _⟩
      (.cons ⟨rfl, rfl, check_needed_iff decodes_locatedText _⟩
        (.cons ⟨rfl, rfl, check_free_iff (decodes_anyList decodes_string) _⟩ .nil))
  · refine exists_bind_eq_ok (exists_get h hnames hchecked hmissing (.head _) _) fun source _ => ?_
    refine exists_bind_eq_ok (exists_get h hnames hchecked hmissing (.tail _ (.head _)) _)
      fun target _ => ?_
    refine exists_bind_eq_ok (exists_getD h hnames hchecked (.tail _ (.tail _ (.head _)))
      fun p as has => ⟨as, has⟩) fun visible _ => ?_
    exact ⟨_, rfl⟩
  · obtain ⟨source, hsource, he⟩ := bind_eq_ok_iff.mp he
    obtain ⟨target, htarget, he⟩ := bind_eq_ok_iff.mp he
    obtain ⟨visible, hvisible, he⟩ := bind_eq_ok_iff.mp he
    cases he
    exact ⟨gives_of_get h decodes_locatedText hasValue_any hsource,
      gives_of_get h decodes_locatedText hasValue_any htarget,
      givesList_of_getD h decodes_string hasValue_items hvisible⟩

theorem decodes_membersEntry :
    Decodes Single membersEntry (IsTable membersKeys) (MeansTable MeansMembers) := by
  have hnames : membersShape.names.Nodup := by decide
  refine decodes_table hnames ?_ (fun p entries h hchecked hmissing => ?_)
    fun p entries e h he => ?_
  · exact .cons ⟨rfl, rfl, check_needed_iff decodes_locatedText _⟩
      (.cons ⟨rfl, rfl, check_needed_iff (decodes_anyList decodes_string) _⟩ .nil)
  · refine exists_bind_eq_ok (exists_get h hnames hchecked hmissing (.head _) _) fun ns _ => ?_
    refine exists_bind_eq_ok (exists_get h hnames hchecked hmissing (.tail _ (.head _)) _)
      fun types _ => ?_
    exact ⟨_, rfl⟩
  · obtain ⟨ns, hns, he⟩ := bind_eq_ok_iff.mp he
    obtain ⟨types, htypes, he⟩ := bind_eq_ok_iff.mp he
    cases he
    exact ⟨gives_of_get h decodes_locatedText hasValue_any hns,
      gives_of_get h (decodes_anyList decodes_string) hasValue_any htypes⟩

def sectionNames : List String :=
  ["allowed", "disallowed", "visible-members", "allowed-assembly", "disallowed-assembly"]

/-- The entries of the sections are tables, or at least no lists: a list would be taken for an entry
whose values stand in the order of its keys. -/
def EntriesHaveKeys (entries : Entries) : Prop :=
  ∀ name ∈ sectionNames, ∀ node, HasValue entries name node → Items (items? · = none) node

/-- The values of sections hold no lists, and all their tables have distinct keys. -/
def InSection (name : String) (node : Node) : Prop :=
  name ∈ sectionNames → Items Single node

theorem decodes_section {α : Type} {name : String} {read : Read α} {IsEntry : Node → Prop}
    {Means : Node → α → Prop} (h : Decodes Single read IsEntry Means)
    (hname : name ∈ sectionNames) :
    Decodes (InSection name) (list read) (IsList IsEntry) (MeansList Means) :=
  (decodes_list h).mono fun _ hnode => hnode hname

theorem matches_policy : Matches InSection PolicyFile.shape policyKeys := by
  have hsetting : ∀ {α : Type} {read : Read α} {IsValue : Node → Prop} {Means : Node → α → Prop}
      {name : String}, Decodes Anything read IsValue Means → ∀ p, InSection name p.node →
        ((Field.free name read).check p = .ok () ↔ IsValue p.node) :=
    fun h p _ => check_free_iff h _ p trivial
  have hsection : ∀ {α : Type} {name : String} {read : Read α} {IsEntry : Node → Prop}
      {Means : Node → α → Prop}, name ∈ sectionNames →
        Decodes Single read IsEntry Means → ∀ p, InSection name p.node →
          ((Field.free name (list read)).check p = .ok () ↔ IsList IsEntry p.node) :=
    fun hname h p hp => check_free_iff (decodes_section h hname) _ p hp
  refine .cons ⟨rfl, rfl, hsetting decodes_boolean⟩ ?_
  refine .cons ⟨rfl, rfl, hsetting decodes_boolean⟩ ?_
  refine .cons ⟨rfl, rfl, hsetting decodes_boolean⟩ ?_
  refine .cons ⟨rfl, rfl, hsetting decodes_natural⟩ ?_
  refine .cons ⟨rfl, rfl, hsetting decodes_locatedText⟩ ?_
  refine .cons ⟨rfl, rfl, hsetting decodes_locatedText⟩ ?_
  refine .cons ⟨rfl, rfl, hsetting decodes_boolean⟩ ?_
  refine .cons ⟨rfl, rfl, hsetting (decodes_anyList decodes_locatedText)⟩ ?_
  refine .cons ⟨rfl, rfl, hsetting decodes_locatedText⟩ ?_
  refine .cons ⟨rfl, rfl, hsection (by decide) decodes_allowEntry⟩ ?_
  refine .cons ⟨rfl, rfl, hsection (by decide) decodes_ruleEntry⟩ ?_
  refine .cons ⟨rfl, rfl, hsection (by decide) decodes_membersEntry⟩ ?_
  refine .cons ⟨rfl, rfl, hsection (by decide) decodes_ruleEntry⟩ ?_
  exact .cons ⟨rfl, rfl, hsection (by decide) decodes_ruleEntry⟩ .nil

section Policies

variable {entries : Entries}

theorem exists_ofEntries (h : DistinctEntries entries)
    (hchecked : Checked PolicyFile.shape (membersOf entries))
    (hmissing : PolicyFile.shape.missing? (membersOf entries) = none) :
    ∃ f, PolicyFile.ofEntries entries = .ok f := by
  have hnames : PolicyFile.shape.names.Nodup := by decide
  have hsetting : ∀ {α : Type} {name : String} {read : Read α} (i : Nat),
      PolicyFile.shape.fields[i]? = some (.free name read) → ∃ a,
        (membersOf entries).getD name (fun p => (read p).map some) none = .ok a :=
    fun _ hfield => exists_getD h hnames hchecked (List.mem_of_getElem? hfield) fun p a ha =>
      ⟨some a, map_eq_ok_iff.mpr ⟨a, ha, rfl⟩⟩
  have hlist : ∀ {α : Type} {name : String} {read : Read α} (i : Nat),
      PolicyFile.shape.fields[i]? = some (.free name (list read)) → ∃ as,
        (membersOf entries).getD name (list read) [] = .ok as :=
    fun _ hfield => exists_getD h hnames hchecked (List.mem_of_getElem? hfield) fun p as has =>
      ⟨as, has⟩
  rw [PolicyFile.ofEntries, members_eq_ok_iff.mpr ⟨rfl, hchecked, hmissing⟩, ok_bind]
  -- The numbers are the places of the keys in the shape.
  refine exists_bind_eq_ok (hsetting 0 rfl) fun _ _ => ?_
  refine exists_bind_eq_ok (hsetting 1 rfl) fun _ _ => ?_
  refine exists_bind_eq_ok (hsetting 2 rfl) fun _ _ => ?_
  refine exists_bind_eq_ok (hsetting 3 rfl) fun _ _ => ?_
  refine exists_bind_eq_ok (hsetting 4 rfl) fun _ _ => ?_
  refine exists_bind_eq_ok (hsetting 5 rfl) fun _ _ => ?_
  refine exists_bind_eq_ok (hsetting 6 rfl) fun _ _ => ?_
  refine exists_bind_eq_ok (hlist 7 rfl) fun _ _ => ?_
  refine exists_bind_eq_ok (hsetting 8 rfl) fun _ _ => ?_
  refine exists_bind_eq_ok (hlist 9 rfl) fun _ _ => ?_
  refine exists_bind_eq_ok (hlist 10 rfl) fun _ _ => ?_
  refine exists_bind_eq_ok (hlist 11 rfl) fun _ _ => ?_
  refine exists_bind_eq_ok (hlist 12 rfl) fun _ _ => ?_
  refine exists_bind_eq_ok (hlist 13 rfl) fun _ _ => ?_
  exact ⟨_, rfl⟩

theorem meansPolicy_of_ofEntries (h : DistinctEntries entries)
    (hvalues : ∀ e ∈ entries, InSection e.1.text e.2) {f : PolicyFile}
    (hf : PolicyFile.ofEntries entries = .ok f) : MeansPolicy entries f := by
  obtain ⟨ms, hms, hf⟩ := bind_eq_ok_iff.mp hf
  obtain ⟨rfl, -⟩ := members_eq_ok_iff.mp hms
  obtain ⟨enabled, henabled, hf⟩ := bind_eq_ok_iff.mp hf
  obtain ⟨child, hchild, hf⟩ := bind_eq_ok_iff.mp hf
  obtain ⟨parent, hparent, hf⟩ := bind_eq_ok_iff.mp hf
  obtain ⟨limit, hlimit, hf⟩ := bind_eq_ok_iff.mp hf
  obtain ⟨severity, hseverity, hf⟩ := bind_eq_ok_iff.mp hf
  obtain ⟨limitSeverity, hlimitSeverity, hf⟩ := bind_eq_ok_iff.mp hf
  obtain ⟨assemblies, hassemblies, hf⟩ := bind_eq_ok_iff.mp hf
  obtain ⟨excluded, hexcluded, hf⟩ := bind_eq_ok_iff.mp hf
  obtain ⟨kind, hkind, hf⟩ := bind_eq_ok_iff.mp hf
  obtain ⟨allowed, hallowed, hf⟩ := bind_eq_ok_iff.mp hf
  obtain ⟨disallowed, hdisallowed, hf⟩ := bind_eq_ok_iff.mp hf
  obtain ⟨visible, hvisible, hf⟩ := bind_eq_ok_iff.mp hf
  obtain ⟨allowedAssembly, hallowedAssembly, hf⟩ := bind_eq_ok_iff.mp hf
  obtain ⟨disallowedAssembly, hdisallowedAssembly, hf⟩ := bind_eq_ok_iff.mp hf
  cases hf
  have hsection : ∀ name ∈ sectionNames, ∀ node, HasValue entries name node →
      Items Single node := by
    rintro name hname node ⟨key, rfl, hmem⟩
    exact hvalues _ hmem hname
  exact {
    enabled := givesOptional_of_getD h decodes_boolean hasValue_any henabled
    childMayUseParent := givesOptional_of_getD h decodes_boolean hasValue_any hchild
    parentMayUseChild := givesOptional_of_getD h decodes_boolean hasValue_any hparent
    maxIssues := givesOptional_of_getD h decodes_natural hasValue_any hlimit
    dependencySeverity := givesOptional_of_getD h decodes_locatedText hasValue_any hseverity
    limitSeverity := givesOptional_of_getD h decodes_locatedText hasValue_any hlimitSeverity
    checkAssemblies := givesOptional_of_getD h decodes_boolean hasValue_any hassemblies
    excluded := givesList_of_getD h decodes_locatedText hasValue_items hexcluded
    patternSyntax := givesOptional_of_getD h decodes_locatedText hasValue_any hkind
    allowed := givesList_of_getD h decodes_allowEntry (hsection _ (by decide)) hallowed
    disallowed := givesList_of_getD h decodes_ruleEntry (hsection _ (by decide)) hdisallowed
    visibleMembers := givesList_of_getD h decodes_membersEntry (hsection _ (by decide)) hvisible
    allowedAssembly :=
      givesList_of_getD h decodes_ruleEntry (hsection _ (by decide)) hallowedAssembly
    disallowedAssembly :=
      givesList_of_getD h decodes_ruleEntry (hsection _ (by decide)) hdisallowedAssembly }

end Policies

theorem distinct_item {node : Node} (h : Distinct node) : Items Distinct node := by
  intro items hitems
  cases h with
  | array hdistinct => exact Option.some.inj hitems ▸ hdistinct
  | tables hdistinct => exact Option.some.inj hitems ▸ hdistinct
  | _ => cases hitems

/-- A document is accepted if and only if each of its keys, and of the keys of its entries, is known
and has a value of its type, and no entry lacks a key that it has to have.  What is read of it is
then what the document says, with no key left out and all lists in the order of the document. -/
theorem ofEntries_of_parse {text : List Char} {entries : Entries}
    (hparse : Toml.parse text = .ok entries) (hentries : EntriesHaveKeys entries) :
    ((∃ f, PolicyFile.ofEntries entries = .ok f) ↔ WellShaped policyKeys entries) ∧
      ∀ f, PolicyFile.ofEntries entries = .ok f → MeansPolicy entries f := by
  have hdistinct := distinct_of_parse hparse
  -- No list stands where a table is looked for, and no key of a table is met twice.
  have hvalues : ∀ e ∈ entries, InSection e.1.text e.2 := by
    intro e he hname items hitems item hitem
    have hitem' := distinct_item (hdistinct.values e he) items hitems item hitem
    have hnoItems := hentries _ hname e.2 ⟨e.1, rfl, he⟩ items hitems item hitem
    refine ⟨hnoItems, ?_⟩
    rintro span form inner rfl
    exact distinct_table_iff.mp hitem'
  refine ⟨?_, fun f hf => meansPolicy_of_ofEntries hdistinct hvalues hf⟩
  rw [← wellShaped_iff matches_policy (by decide) hvalues]
  constructor
  · rintro ⟨f, hf⟩
    obtain ⟨ms, hms, -⟩ := bind_eq_ok_iff.mp hf
    exact (members_eq_ok_iff.mp hms).2
  · rintro ⟨hchecked, hmissing⟩
    exact exists_ofEntries hdistinct hchecked hmissing

/-- A setting, an entry in braces with its keys out of order, and an entry with a header. -/
def mixed : String :=
  "max_issue_count = 3\nallowed = [\x7bto = 'B', from = 'A'\x7d]\n" ++
    "[[visible-members]]\nof_namespace = 'N'\ntypes = ['T']\n"

def mixedAllowed : Entries :=
  [(⟨"to", ⟨32, 34⟩⟩, .string ⟨37, 40⟩ "B"), (⟨"from", ⟨42, 46⟩⟩, .string ⟨49, 52⟩ "A")]

def mixedMembers : Entries :=
  [(⟨"of_namespace", ⟨75, 87⟩⟩, .string ⟨90, 93⟩ "N"),
    (⟨"types", ⟨94, 99⟩⟩, .array ⟨102, 107⟩ [.string ⟨103, 106⟩ "T"])]

def mixedEntries : Entries :=
  [(⟨"max_issue_count", ⟨0, 15⟩⟩, .integer ⟨18, 19⟩ 3),
    (⟨"allowed", ⟨20, 27⟩⟩, .array ⟨30, 54⟩ [.table (some ⟨31, 53⟩) .inline mixedAllowed]),
    (⟨"visible-members", ⟨57, 72⟩⟩,
      .tables (some ⟨55, 107⟩) [.table (some ⟨55, 107⟩) .header mixedMembers])]

theorem parse_mixed : Toml.parse mixed.toList = .ok mixedEntries := by cbv

theorem wellShaped_mixed : WellShaped policyKeys mixedEntries where
  known := by
    have hallowed : WellShaped allowKeys mixedAllowed := by
      refine ⟨?_, by simp [allowKeys, ruleKeys, mixedAllowed]⟩
      simp only [mixedAllowed, List.forall_mem_cons]
      exact ⟨⟨allowKeys[1], List.getElem_mem _, rfl, .string _ _⟩,
        ⟨allowKeys[0], List.getElem_mem _, rfl, .string _ _⟩, by simp⟩
    have hmembers : WellShaped membersKeys mixedMembers := by
      refine ⟨?_, by simp [membersKeys, mixedMembers]⟩
      simp only [mixedMembers, List.forall_mem_cons]
      exact ⟨⟨membersKeys[0], List.getElem_mem _, rfl, .string _ _⟩,
        ⟨membersKeys[1], List.getElem_mem _, rfl,
          .array _ (List.forall_mem_singleton.mpr (.string _ _))⟩, by simp⟩
    simp only [mixedEntries, List.forall_mem_cons]
    exact ⟨⟨policyKeys[3], List.getElem_mem _, rfl, .integer _ 3⟩,
      ⟨policyKeys[9], List.getElem_mem _, rfl,
        .array _ (List.forall_mem_singleton.mpr (.table _ _ hallowed))⟩,
      ⟨policyKeys[11], List.getElem_mem _, rfl,
        .tables _ (List.forall_mem_singleton.mpr (.table _ _ hmembers))⟩, by simp⟩
  complete := by simp [policyKeys]

theorem ofEntries_mixed :
    Toml.parse mixed.toList = .ok mixedEntries ∧
      ∃ f, PolicyFile.ofEntries mixedEntries = .ok f ∧ MeansPolicy mixedEntries f := by
  have hentries : EntriesHaveKeys mixedEntries := by
    rintro name - node ⟨key, rfl, hmem⟩ items hitems item hitem
    simp only [mixedEntries, List.mem_cons, Prod.mk.injEq, List.not_mem_nil, or_false] at hmem
    rcases hmem with ⟨-, rfl⟩ | ⟨-, rfl⟩ | ⟨-, rfl⟩
    · cases hitems
    · cases hitems
      rw [List.mem_singleton.mp hitem]
      rfl
    · cases hitems
      rw [List.mem_singleton.mp hitem]
      rfl
  obtain ⟨haccepts, hmeans⟩ := ofEntries_of_parse parse_mixed hentries
  obtain ⟨f, hf⟩ := haccepts.mpr wellShaped_mixed
  exact ⟨parse_mixed, f, hf, hmeans f hf⟩

end NamespacePolicy.Proofs.PolicyDecoding
