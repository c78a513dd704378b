import Mathlib.Data.List.Basic
import Mathlib.Data.List.Nodup
import NamespacePolicy.Policy.Draft

/-!
What drafts accumulate.  Lists grow by new items only, so they end as the distinct items in the
order in which they first came; tables of type names grow by keys in the same way, and the names
of a key are united.  The index of the allow rules finds each rule where it stands, so a table
with an index grows like one that is searched.
-/

namespace NamespacePolicy.Proofs.Accumulation

theorem getElem?_snoc_eq_some_iff {α : Type*} (items : List α) (item x : α) (j : Nat) :
    (items ++ [item])[j]? = some x ↔ items[j]? = some x ∨ j = items.length ∧ item = x := by
  rcases Nat.lt_trichotomy j items.length with hj | rfl | hj
  · rw [List.getElem?_append_left hj]
    simp [Nat.ne_of_lt hj]
  · simp
  · rw [List.getElem?_eq_none (by simp; omega), List.getElem?_eq_none (by omega)]
    simp [Nat.ne_of_gt hj]

section Lists

variable {α : Type} [DecidableEq α]

theorem addNew_nodup {items : List α} (h : items.Nodup) (item : α) :
    (addNew items item).Nodup := by
  rw [addNew]
  split
  · exact h
  · next hnew => exact List.nodup_append.mpr ⟨h, by simp, by grind⟩

theorem foldl_addNew_nodup {acc : List α} (h : acc.Nodup) (items : List α) :
    (items.foldl addNew acc).Nodup := by
  induction items generalizing acc with
  | nil => exact h
  | cons item rest ih => exact ih (addNew_nodup h item)

theorem eraseDups_of_nodup {items : List α} (h : items.Nodup) : items.eraseDups = items := by
  induction items with
  | nil => rfl
  | cons item rest ih =>
      obtain ⟨hnew, hrest⟩ := List.nodup_cons.mp h
      have hfilter : (rest.filter fun b => !b == item) = rest := by
        rw [List.filter_eq_self]
        intro b hb
        have hne : b ≠ item := fun heq => hnew (heq ▸ hb)
        simpa using hne
      rw [List.eraseDups_cons, hfilter, ih hrest]

theorem eraseDups_addNew_append (acc : List α) (item : α) (rest : List α) :
    (addNew acc item ++ rest).eraseDups = (acc ++ item :: rest).eraseDups := by
  rw [addNew]
  split
  · next h =>
    have hremove : (item :: rest).removeAll acc = rest.removeAll acc := by
      simp [List.removeAll, h]
    rw [List.eraseDups_append, List.eraseDups_append, hremove]
  · rw [List.append_assoc, List.singleton_append]

theorem foldl_addNew_eq {acc : List α} (h : acc.Nodup) (items : List α) :
    items.foldl addNew acc = (acc ++ items).eraseDups := by
  induction items generalizing acc with
  | nil => rw [List.foldl_nil, List.append_nil, eraseDups_of_nodup h]
  | cons item rest ih =>
      rw [List.foldl_cons, ih (addNew_nodup h item), eraseDups_addNew_append]

theorem foldl_addNew_nil (items : List α) : items.foldl addNew [] = items.eraseDups :=
  foldl_addNew_eq .nil items

end Lists

section Tables

variable {κ : Type}

/-- A table says that a type can be seen under a key. -/
def Shows (rows : List (κ × TypeNames)) (key : κ) (name : String) : Prop :=
  ∃ types, (key, types) ∈ rows ∧ name ∈ types

theorem shows_cons (entry : κ × TypeNames) (rows : List (κ × TypeNames)) (key : κ)
    (name : String) :
    Shows (entry :: rows) key name ↔ (entry.1 = key ∧ name ∈ entry.2) ∨ Shows rows key name := by
  obtain ⟨entryKey, entryTypes⟩ := entry
  constructor
  · rintro ⟨types, hmem, hname⟩
    rcases List.mem_cons.mp hmem with heq | hmem
    · obtain ⟨rfl, rfl⟩ := Prod.mk.inj heq
      exact .inl ⟨rfl, hname⟩
    · exact .inr ⟨types, hmem, hname⟩
  · rintro (⟨rfl, hname⟩ | ⟨types, hmem, hname⟩)
    · exact ⟨entryTypes, List.mem_cons_self, hname⟩
    · exact ⟨types, List.mem_cons_of_mem _ hmem, hname⟩

theorem shows_iff_of_nodup {rows : List (κ × TypeNames)} (h : (rows.map (·.1)).Nodup) {key : κ}
    {types : TypeNames} (hmem : (key, types) ∈ rows) (name : String) :
    Shows rows key name ↔ name ∈ types := by
  refine ⟨?_, fun hname => ⟨types, hmem, hname⟩⟩
  rintro ⟨others, hothers, hname⟩
  have heq := List.inj_on_of_nodup_map h hothers hmem rfl
  rwa [(Prod.mk.inj heq).2] at hname

variable [DecidableEq κ]

def addRow (rows : List (κ × TypeNames)) (row : κ × TypeNames) : List (κ × TypeNames) :=
  addTypes row.1 row.2 rows

theorem keys_addTypes (key : κ) (types : TypeNames) (rows : List (κ × TypeNames)) :
    (addTypes key types rows).map (·.1) = addNew (rows.map (·.1)) key := by
  induction rows with
  | nil => rfl
  | cons entry rest ih =>
      rw [addTypes]
      split
      · next h => simp [addNew, h]
      · next h =>
        rw [List.map_cons, List.map_cons, ih, addNew, addNew]
        simp only [List.mem_cons, Ne.symm h, false_or]
        split <;> rfl

theorem keys_foldl_addRow (rows acc : List (κ × TypeNames)) :
    (rows.foldl addRow acc).map (·.1) = (rows.map (·.1)).foldl addNew (acc.map (·.1)) := by
  induction rows generalizing acc with
  | nil => rfl
  | cons row rest ih =>
      rw [List.foldl_cons, ih, addRow, keys_addTypes, List.map_cons, List.foldl_cons]

theorem shows_addTypes (key : κ) (types : TypeNames) (rows : List (κ × TypeNames)) (k : κ)
    (name : String) :
    Shows (addTypes key types rows) k name ↔ (key = k ∧ name ∈ types) ∨ Shows rows k name := by
  induction rows with
  | nil => simp only [addTypes, shows_cons]
  | cons entry rest ih =>
      rw [addTypes]
      split
      · next h =>
        subst h
        simp only [shows_cons, TypeNames.mem_union, and_or_left, or_assoc]
        exact or_left_comm
      · rw [shows_cons, shows_cons, ih, or_left_comm]

theorem shows_foldl_addRow (rows acc : List (κ × TypeNames)) (key : κ) (name : String) :
    Shows (rows.foldl addRow acc) key name ↔ Shows rows key name ∨ Shows acc key name := by
  induction rows generalizing acc with
  | nil => simp [Shows]
  | cons row rest ih =>
      rw [List.foldl_cons, ih, addRow, shows_addTypes, shows_cons, or_left_comm, or_assoc]

theorem modify_eq_addTypes {rows : List (κ × TypeNames)} (h : (rows.map (·.1)).Nodup) {key : κ}
    {place : Nat} (hkey : (rows.map (·.1))[place]? = some key) (types : TypeNames) :
    rows.modify place (fun row => (row.1, row.2.union types)) = addTypes key types rows := by
  induction rows generalizing place with
  | nil => simp at hkey
  | cons entry rest ih =>
      obtain ⟨hnew, hrest⟩ := List.nodup_cons.mp h
      cases place with
      | zero =>
          have hentry : entry.1 = key := by simpa using hkey
          rw [List.modify_zero_cons, addTypes, if_pos hentry]
      | succ place =>
          have hplace : (rest.map (·.1))[place]? = some key := by simpa using hkey
          have hne : entry.1 ≠ key := by
            rintro rfl
            exact hnew (List.mem_of_getElem? hplace)
          rw [List.modify_succ_cons, addTypes, if_neg hne, ih hrest hplace]

theorem addTypes_of_not_mem {rows : List (κ × TypeNames)} {key : κ}
    (h : key ∉ rows.map (·.1)) (types : TypeNames) :
    addTypes key types rows = rows ++ [(key, types)] := by
  induction rows with
  | nil => rfl
  | cons entry rest ih =>
      simp only [List.map_cons, List.mem_cons, not_or] at h
      rw [addTypes, if_neg (Ne.symm h.1), ih h.2, List.cons_append]

end Tables

section Index

/-- The index of a table finds every rule of its rows at its place, and finds nothing else. -/
def Indexed (t : AllowTable) : Prop :=
  ∀ rule place, t.index.lookup rule = some place ↔ (t.rows.map (·.1))[place]? = some rule

variable {t : AllowTable}

theorem indexed_empty : Indexed {} := by
  intro rule place
  simp

theorem Indexed.nodup (h : Indexed t) : (t.rows.map (·.1)).Nodup := by
  rw [List.nodup_iff_injective_getElem]
  rintro ⟨i, hi⟩ ⟨j, hj⟩ heq
  have hfound := (h _ i).mpr (List.getElem?_eq_getElem hi)
  have hfound' := (h _ j).mpr (List.getElem?_eq_getElem hj)
  simp only at heq
  rw [heq, hfound'] at hfound
  exact Fin.ext (Option.some.inj hfound).symm

theorem Indexed.not_mem_of_lookup (h : Indexed t) {rule : Rule}
    (hlookup : t.index.lookup rule = none) : rule ∉ t.rows.map (·.1) := by
  intro hmem
  obtain ⟨place, hplace⟩ := List.getElem?_of_mem hmem
  rw [(h rule place).mpr hplace] at hlookup
  simp at hlookup

/-- Looking a rule up and searching for it comes to the same. -/
theorem rows_add (h : Indexed t) (rule : Rule) (types : TypeNames) :
    (t.add rule types).rows = addTypes rule types t.rows := by
  rw [AllowTable.add]
  cases hlookup : t.index.lookup rule with
  | none => exact (addTypes_of_not_mem (h.not_mem_of_lookup hlookup) types).symm
  | some place => exact modify_eq_addTypes h.nodup ((h rule place).mp hlookup) types

theorem indexed_add (h : Indexed t) (rule : Rule) (types : TypeNames) :
    Indexed (t.add rule types) := by
  intro other place
  have hkeys := congrArg (List.map (·.1)) (rows_add h rule types)
  rw [keys_addTypes] at hkeys
  rw [hkeys]
  cases hlookup : t.index.lookup rule with
  | some found =>
      have hmem : rule ∈ t.rows.map (·.1) := List.mem_of_getElem? ((h rule found).mp hlookup)
      simp only [AllowTable.add, hlookup, addNew, if_pos hmem]
      exact h other place
  | none =>
      have hnew := h.not_mem_of_lookup hlookup
      simp only [AllowTable.add, hlookup, addNew, if_neg hnew, List.lookup_cons]
      rw [getElem?_snoc_eq_some_iff, ← h other place, List.length_map]
      by_cases heq : other = rule
      · subst heq
        simp [hlookup, eq_comm]
      · simp [beq_eq_false_iff_ne.mpr heq, Ne.symm heq]

theorem foldl_add (h : Indexed t) (rows : List (Rule × TypeNames)) :
    Indexed (rows.foldl (fun t row => t.add row.1 row.2) t) ∧
      (rows.foldl (fun t row => t.add row.1 row.2) t).rows = rows.foldl addRow t.rows := by
  induction rows generalizing t with
  | nil => exact ⟨h, rfl⟩
  | cons row rest ih =>
      rw [List.foldl_cons, List.foldl_cons, addRow, ← rows_add h]
      exact ih (indexed_add h row.1 row.2)

end Index

end NamespacePolicy.Proofs.Accumulation
