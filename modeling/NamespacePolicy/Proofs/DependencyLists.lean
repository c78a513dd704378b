import NamespacePolicy.DependencyList
import NamespacePolicy.Proofs.JsonWriting
import NamespacePolicy.Proofs.Records

/-!
How lists of dependencies are spelled.  The entries are read from every spelling, in their order and
each with its own place; an object with a member that it does not have, or with one member twice,
is never read.
-/

namespace NamespacePolicy.Proofs.DependencyLists

open NamespacePolicy.Proofs.JsonGrammar
open NamespacePolicy.Proofs.JsonWriting
open NamespacePolicy.Proofs.Records

inductive SpellsNullable {α : Type} (write : α → Json) : Option α → Json → Prop
  | null : SpellsNullable write none .null
  | value (a : α) : SpellsNullable write (some a) (write a)

inductive SpellsList {α : Type} (Spelled : α → Json → Prop) : List α → Json → Prop
  | array {as : List α} {items : List Json} (h : List.Forall₂ Spelled as items) :
      SpellsList Spelled as (.array items)

/-- The member of the given name spells the value.  Without such a member the value is the
default. -/
def Gives {α : Type} (members : Members Json) (name : String) (Spelled : α → Json → Prop)
    (default a : α) : Prop :=
  (∃ j, (name, j) ∈ members ∧ Spelled a j) ∨ (∀ j, (name, j) ∉ members) ∧ a = default

def typeNames : List String :=
  ["from_namespace", "from_type", "to_namespace", "to_type", "file", "line", "column"]

def assemblyNames : List String := ["from", "to"]

def sectionNames : List String := ["types", "assemblies"]

/-- The members, in any order, spell an entry for a type that uses a type. -/
structure SpellsType (e : TypeEntry) (members : Members Json) : Prop where
  distinct : (members.map (·.1)).Nodup
  declared : ∀ m ∈ members, m.1 ∈ typeNames
  fromNamespace : ("from_namespace", .ofString e.fromNamespace) ∈ members
  fromType : ("from_type", .ofString e.fromType) ∈ members
  toNamespace : ("to_namespace", .ofString e.toNamespace) ∈ members
  toType : ("to_type", .ofString e.toType) ∈ members
  file : Gives members "file" (SpellsNullable .ofString) none e.file
  line : Gives members "line" (SpellsNullable .ofNat) none e.line
  column : Gives members "column" (SpellsNullable .ofNat) none e.column

structure SpellsAssembly (e : AssemblyEntry) (members : Members Json) : Prop where
  distinct : (members.map (·.1)).Nodup
  declared : ∀ m ∈ members, m.1 ∈ assemblyNames
  source : ("from", .ofString e.source) ∈ members
  target : ("to", .ofString e.target) ∈ members

inductive SpellsObject {α : Type} (Spelled : α → Members Json → Prop) (a : α) : Json → Prop
  | record {members : Members Json} (h : Spelled a members) :
      SpellsObject Spelled a (.record members)

structure SpellsSections (l : DependencyList) (members : Members Json) : Prop where
  distinct : (members.map (·.1)).Nodup
  declared : ∀ m ∈ members, m.1 ∈ sectionNames
  types : Gives members "types" (SpellsList (SpellsObject SpellsType)) [] l.types
  assemblies : Gives members "assemblies" (SpellsList (SpellsObject SpellsAssembly)) [] l.assemblies

/-- Some member has none of the names, or two members have one name. -/
def Strays (names : List String) (object : List (Json × Json)) : Prop :=
  (∃ m ∈ object, ∀ name ∈ names, m.1 ≠ .ofString name) ∨ ¬ (object.map (·.1)).Nodup

/-- An object of the document has a member that it must not have, whatever the rest of the document
is. -/
inductive Astray : Json → Prop
  | sections {object : List (Json × Json)} (h : Strays sectionNames object) :
      Astray (.object object)
  | type {object entry : List (Json × Json)} {items : List Json}
      (hsection : (.ofString "types", .array items) ∈ object) (hentry : .object entry ∈ items)
      (h : Strays typeNames entry) : Astray (.object object)
  | assembly {object entry : List (Json × Json)} {items : List Json}
      (hsection : (.ofString "assemblies", .array items) ∈ object)
      (hentry : .object entry ∈ items) (h : Strays assemblyNames entry) : Astray (.object object)

/-- Compilers have three spellings of the global namespace; any other name is taken as it is. -/
inductive Names (spelling : String) : Domain → Prop
  | root (h : spelling = "" ∨ spelling = "." ∨ spelling = "<global namespace>") :
      Names spelling .global
  | plain (h : spelling ≠ "" ∧ spelling ≠ "." ∧ spelling ≠ "<global namespace>") :
      Names spelling ⟨spelling⟩

/-- An entry has a place if and only if it has a file. -/
inductive IsPlace (e : TypeEntry) : Option Location → Prop
  | nowhere (h : e.file = none) : IsPlace e none
  | within {file : String} (h : e.file = some file) :
      IsPlace e (some ⟨file, e.line.getD 1, e.column.getD 1⟩)

structure IsOccurrence (e : TypeEntry) (o : Occurrence) : Prop where
  sourceNamespace : Names e.fromNamespace o.dependency.sourceNamespace
  sourceType : o.dependency.sourceType = e.fromType
  targetNamespace : Names e.toNamespace o.dependency.targetNamespace
  targetType : o.dependency.targetType = e.toType
  place : IsPlace e o.location

structure IsDependency (e : AssemblyEntry) (d : AssemblyDependency) : Prop where
  source : Names e.source d.source
  target : Names e.target d.target

theorem names_ofSymbol (spelling : String) : Names spelling (.ofSymbol spelling) := by
  rw [Domain.ofSymbol, Domain.globalSpellings]
  split
  · next h => exact .root (by simpa using h)
  · next h => exact .plain (by simpa using h)

theorem isPlace_occurrence (e : TypeEntry) : IsPlace e e.occurrence.location := by
  cases h : e.file with
  | none => simpa [TypeEntry.occurrence, h] using IsPlace.nowhere h
  | some file => simpa [TypeEntry.occurrence, h] using IsPlace.within h

theorem isOccurrence_occurrence (e : TypeEntry) : IsOccurrence e e.occurrence :=
  ⟨names_ofSymbol _, rfl, names_ofSymbol _, rfl, isPlace_occurrence e⟩

theorem isDependency_dependency (e : AssemblyEntry) : IsDependency e e.dependency :=
  ⟨names_ofSymbol _, names_ofSymbol _⟩

section Spelled

variable {α : Type} {members : Members Json} {name : String} {Spelled : α → Json → Prop}
  {read : Json → Except JsonError α} {default a : α}

theorem text_check (hkeys : (members.map (·.1)).Nodup) {text : String}
    (h : (name, .ofString text) ∈ members) :
    ∀ j, (name, j) ∈ members → (Field.needed name Json.text).check j = .ok () := by
  intro j hj
  rw [value_unique hkeys hj h]
  exact needed_check_iff.mpr ⟨text, rfl⟩

theorem member_text (hkeys : (members.map (·.1)).Nodup) {text : String}
    (h : (name, .ofString text) ∈ members) : Json.member members name Json.text = .ok text :=
  (get_eq_ok_iff hkeys).mpr ⟨_, h, rfl⟩

theorem Gives.check (h : Gives members name Spelled default a)
    (hkeys : (members.map (·.1)).Nodup) (hread : ∀ a j, Spelled a j → read j = .ok a) :
    ∀ j, (name, j) ∈ members → (Field.free name read).check j = .ok () := by
  intro j hj
  rcases h with ⟨own, hown, hspelled⟩ | ⟨hnone, -⟩
  · rw [value_unique hkeys hj hown]
    exact free_check_iff.mpr ⟨a, hread a own hspelled⟩
  · exact absurd hj (hnone j)

theorem Gives.getD (h : Gives members name Spelled default a)
    (hkeys : (members.map (·.1)).Nodup) (hread : ∀ a j, Spelled a j → read j = .ok a) :
    members.getD name read default = .ok a := by
  refine (getD_eq_ok_iff hkeys).mpr (h.imp_left ?_)
  rintro ⟨j, hj, hspelled⟩
  exact ⟨j, hj, hread a j hspelled⟩

theorem optional_path (file : Option String) (j : Json) (h : SpellsNullable .ofString file j) :
    Json.optional Json.path j = .ok file := by
  cases h <;> rfl

theorem optional_natural (n : Option Nat) (j : Json) (h : SpellsNullable .ofNat n j) :
    Json.optional Json.natural j = .ok n := by
  cases h <;> rfl

theorem list_spelled (hread : ∀ a j, Spelled a j → read j = .ok a) (as : List α) (j : Json)
    (h : SpellsList Spelled as j) : Json.list read j = .ok as := by
  cases h with
  | array h => exact mapM_eq_ok_iff.mpr (h.flip.imp fun j a hj => hread a j hj)

end Spelled

theorem typeEntry_spelled (e : TypeEntry) (j : Json) (h : SpellsObject SpellsType e j) :
    TypeEntry.ofJson j = .ok e := by
  obtain @⟨members, h⟩ := h
  have hkeys := h.distinct
  have hchecked : Checked TypeEntry.shape members := by
    refine (checked_iff (by decide)).mpr ⟨h.declared, ?_⟩
    simp only [TypeEntry.shape, List.forall_mem_cons]
    exact ⟨text_check hkeys h.fromNamespace, text_check hkeys h.fromType,
      text_check hkeys h.toNamespace, text_check hkeys h.toType,
      h.file.check hkeys optional_path, h.line.check hkeys optional_natural,
      h.column.check hkeys optional_natural, by simp⟩
  have hmissing : TypeEntry.shape.missing? members = none := by
    refine missing?_eq_none_iff.mpr ?_
    simp only [TypeEntry.shape, List.forall_mem_cons, Field.needed, Field.free]
    exact ⟨fun _ => ⟨_, h.fromNamespace⟩, fun _ => ⟨_, h.fromType⟩, fun _ => ⟨_, h.toNamespace⟩,
      fun _ => ⟨_, h.toType⟩, by simp⟩
  rw [TypeEntry.ofJson, members_record hkeys hchecked hmissing, ok_bind,
    member_text hkeys h.fromNamespace, ok_bind, member_text hkeys h.fromType, ok_bind,
    member_text hkeys h.toNamespace, ok_bind, member_text hkeys h.toType, ok_bind,
    h.file.getD hkeys optional_path, ok_bind, h.line.getD hkeys optional_natural, ok_bind,
    h.column.getD hkeys optional_natural]
  rfl

theorem assemblyEntry_spelled (e : AssemblyEntry) (j : Json) (h : SpellsObject SpellsAssembly e j) :
    AssemblyEntry.ofJson j = .ok e := by
  obtain @⟨members, h⟩ := h
  have hkeys := h.distinct
  have hchecked : Checked AssemblyEntry.shape members := by
    refine (checked_iff (by decide)).mpr ⟨h.declared, ?_⟩
    simp only [AssemblyEntry.shape, List.forall_mem_cons]
    exact ⟨text_check hkeys h.source, text_check hkeys h.target, by simp⟩
  have hmissing : AssemblyEntry.shape.missing? members = none := by
    refine missing?_eq_none_iff.mpr ?_
    simp only [AssemblyEntry.shape, List.forall_mem_cons]
    exact ⟨fun _ => ⟨_, h.source⟩, fun _ => ⟨_, h.target⟩, by simp⟩
  rw [AssemblyEntry.ofJson, members_record hkeys hchecked hmissing, ok_bind,
    member_text hkeys h.source, ok_bind, member_text hkeys h.target]
  rfl

theorem sections_spelled {l : DependencyList} {j : Json} (h : SpellsObject SpellsSections l j) :
    DependencyList.ofJson j = .ok l := by
  obtain @⟨members, h⟩ := h
  have hkeys := h.distinct
  have htypes := list_spelled typeEntry_spelled
  have hassemblies := list_spelled assemblyEntry_spelled
  have hchecked : Checked DependencyList.shape members := by
    refine (checked_iff (by decide)).mpr ⟨h.declared, ?_⟩
    simp only [DependencyList.shape, List.forall_mem_cons]
    exact ⟨h.types.check hkeys htypes, h.assemblies.check hkeys hassemblies, by simp⟩
  have hmissing : DependencyList.shape.missing? members = none := by
    refine missing?_eq_none_iff.mpr ?_
    simp [DependencyList.shape, Field.free]
  rw [DependencyList.ofJson, members_record hkeys hchecked hmissing, ok_bind,
    h.types.getD hkeys htypes, ok_bind, h.assemblies.getD hkeys hassemblies]
  rfl

/-- An object strays as soon as a member is added to it whose name it does not have, or has
already. -/
theorem strays_of_added {names : List String} {before after : List (Json × Json)} {key value : Json}
    (h : (∀ name ∈ names, key ≠ .ofString name) ∨ key ∈ (before ++ after).map (·.1)) :
    Strays names (before ++ (key, value) :: after) := by
  rcases h with hunknown | hrepeated
  · exact .inl ⟨(key, value), by simp, hunknown⟩
  · refine .inr fun hkeys => ?_
    rw [List.map_append, List.map_cons, List.nodup_middle, ← List.map_append] at hkeys
    exact (List.nodup_cons.mp hkeys).1 hrepeated

theorem not_strays_of_members {s : Json.Shape} {object : List (Json × Json)}
    {members : Members Json} (h : Json.members s true (.object object) = .ok members) :
    ¬ Strays s.names object := by
  obtain ⟨heq, hkeys, hchecked, -⟩ := members_object_iff.mp h
  obtain rfl := Json.object.inj heq
  rintro (⟨m, hm, hnames⟩ | hrepeated)
  -- A member that was read belongs to a field, and its name is that of the field.
  · obtain ⟨own, hown, rfl⟩ := List.mem_map.mp hm
    obtain ⟨field, hfield, -⟩ := hchecked own hown
    have hname : field.name = own.1 := by simpa using List.find?_some hfield
    exact hnames own.1 (hname ▸ List.mem_map_of_mem (List.mem_of_find?_eq_some hfield)) rfl
  · refine hrepeated ?_
    have hname : (fun m : String × Json => Json.ofString m.1) = Json.ofString ∘ (·.1) := rfl
    rw [List.map_map]
    change (members.map fun m => Json.ofString m.1).Nodup
    rw [hname, ← List.map_map]
    exact hkeys.map fun a b h => Option.some.inj (Json.string.inj h)

theorem typeEntry_not_strays {entry : List (Json × Json)} {e : TypeEntry}
    (h : TypeEntry.ofJson (.object entry) = .ok e) : ¬ Strays typeNames entry := by
  obtain ⟨members, hmembers, -⟩ := bind_eq_ok_iff.mp h
  exact not_strays_of_members hmembers

theorem assemblyEntry_not_strays {entry : List (Json × Json)} {e : AssemblyEntry}
    (h : AssemblyEntry.ofJson (.object entry) = .ok e) : ¬ Strays assemblyNames entry := by
  obtain ⟨members, hmembers, -⟩ := bind_eq_ok_iff.mp h
  exact not_strays_of_members hmembers

/-- Each item of a list is read where the list is. -/
theorem item_ok {α : Type} {s : Json.Shape} {object : List (Json × Json)} {members : Members Json}
    {name : String} {read : Json → Except JsonError α} {items : List Json} {item : Json}
    (h : Json.members s true (.object object) = .ok members)
    (hfield : s.field? name = some (.free name (Json.list read)))
    (hmember : (.ofString name, .array items) ∈ object) (hitem : item ∈ items) :
    ∃ a, read item = .ok a := by
  obtain ⟨heq, -, hchecked, -⟩ := members_object_iff.mp h
  obtain rfl := Json.object.inj heq
  obtain ⟨⟨key, value⟩, hown, hkey⟩ := List.mem_map.mp hmember
  cases hkey
  obtain ⟨field, hfound, hcheck⟩ := hchecked _ hown
  obtain rfl := Option.some.inj (hfield.symm.trans hfound)
  obtain ⟨as, has⟩ := free_check_iff.mp hcheck
  exact exists_mapM_eq_ok_iff.mp ⟨as, has⟩ item hitem

theorem not_astray {j : Json} {l : DependencyList} (hread : DependencyList.ofJson j = .ok l) :
    ¬ Astray j := by
  intro hastray
  obtain ⟨members, hmembers, -⟩ := bind_eq_ok_iff.mp hread
  cases hastray with
  | sections h => exact not_strays_of_members hmembers h
  | type hsection hentry h =>
      obtain ⟨e, he⟩ := item_ok hmembers rfl hsection hentry
      exact typeEntry_not_strays he h
  | assembly hsection hentry h =>
      obtain ⟨e, he⟩ := item_ok hmembers rfl hsection hentry
      exact assemblyEntry_not_strays he h

/-- A text that spells a list gives just the entries of the list, one each and in their order.  A
text with an object that has a member too many gives nothing. -/
theorem parse_spelled {j : Json} {text : String} (hspells : Spells j text.toList) :
    (∀ l, SpellsObject SpellsSections l j →
      DependencyList.parse text = .ok l ∧ List.Forall₂ IsOccurrence l.types l.occurrences ∧
        List.Forall₂ IsDependency l.assemblies l.assemblyDependencies) ∧
      (Astray j → ∃ e, DependencyList.parse text = .error e) := by
  have hparse : DependencyList.parse text = DependencyList.ofJson j := by
    rw [DependencyList.parse, Json.parse, read_of_spells hspells]
    cases DependencyList.ofJson j <;> rfl
  refine ⟨fun l h => ⟨?_, ?_, ?_⟩, fun h => exists_error fun l hl => ?_⟩
  · rw [hparse, sections_spelled h]
  · rw [DependencyList.occurrences, List.forall₂_map_right_iff]
    exact List.forall₂_same.mpr fun e _ => isOccurrence_occurrence e
  · rw [DependencyList.assemblyDependencies, List.forall₂_map_right_iff]
    exact List.forall₂_same.mpr fun e _ => isDependency_dependency e
  · rw [hparse] at hl
    exact not_astray hl h

/-- Members out of order, a null, a name to escape and the empty spelling of the global
namespace. -/
def entryMembers : Members Json :=
  [("to_type", .ofString "B"), ("line", .null), ("from_namespace", .ofString ""),
    ("file", .ofString "\"Ä\".cs"), ("to_namespace", .ofString "Lib"), ("column", .ofNat 7),
    ("from_type", .ofString "A")]

def entry : TypeEntry := ⟨"", "A", "Lib", "B", some "\"Ä\".cs", none, some 7⟩

def document (members : Members Json) : Json := .record [("types", .array [.record members])]

theorem spellsType_entry : SpellsType entry entryMembers where
  distinct := by simp [entryMembers]
  declared := by simp [entryMembers, typeNames]
  fromNamespace := by simp [entryMembers, entry]
  fromType := by simp [entryMembers, entry]
  toNamespace := by simp [entryMembers, entry]
  toType := by simp [entryMembers, entry]
  file := .inl ⟨_, by simp [entryMembers], .value _⟩
  line := .inl ⟨.null, by simp [entryMembers], .null⟩
  column := .inl ⟨_, by simp [entryMembers], .value _⟩

theorem spellable_document {members : Members Json} (h : ∀ m ∈ members, Spellable m.2) :
    Spellable (document members) := by
  refine .record ?_
  simpa using Spellable.array (by simpa using Spellable.record h)

theorem parse_spelled_document :
    DependencyList.parse (document entryMembers).prettyText = .ok ⟨[entry], []⟩ ∧
      ∃ e, DependencyList.parse (document (("line", .ofNat 3) :: entryMembers)).prettyText =
        .error e := by
  have hspellable : ∀ m ∈ ("line", .ofNat 3) :: entryMembers, Spellable m.2 := by
    simp only [entryMembers, List.forall_mem_cons]
    exact ⟨.natural (by decide), .string _, .null, .string _, .string _, .string _,
      .natural (by decide), .string _, by simp⟩
  constructor
  · have hspells := spells_prettyText (spellable_document (List.forall_mem_cons.mp hspellable).2)
    have hsections : SpellsSections ⟨[entry], []⟩ [("types", .array [.record entryMembers])] :=
      { distinct := by simp
        declared := by simp [sectionNames]
        types := .inl ⟨_, .head _, .array (.cons (.record spellsType_entry) .nil)⟩
        assemblies := .inr ⟨by simp, rfl⟩ }
    exact ((parse_spelled hspells).1 _ (.record hsections)).1
  · have hspells := spells_prettyText (spellable_document hspellable)
    refine (parse_spelled hspells).2 (.type (.head _) (.head _) ?_)
    exact @strays_of_added typeNames [] _ _ _ (.inr (by simp [entryMembers]))

end NamespacePolicy.Proofs.DependencyLists
