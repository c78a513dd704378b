import NamespacePolicy.Text.Split

/-! Sets of type names.  A set lists its names in ascending order, so equal sets are equal lists. -/

namespace NamespacePolicy

structure TypeNames where
  names : List String
  ascending : names.Pairwise (· < ·)
deriving DecidableEq, Repr

namespace TypeNames

theorem lt_of_not_lt_of_ne {a b : String} (h : ¬ a < b) (ne : a ≠ b) : b < a := by
  by_cases h' : b < a
  · exact h'
  · exact absurd (String.le_antisymm (String.not_lt.1 h') (String.not_lt.1 h)) ne

def empty : TypeNames := ⟨[], .nil⟩

instance : Inhabited TypeNames := ⟨empty⟩

/-- Puts a name at its place in an ascending list, unless it is there already. -/
def insertName (name : String) : List String → List String
  | [] => [name]
  | first :: rest =>
      if name < first then name :: first :: rest
      else if name = first then first :: rest
      else first :: insertName name rest

theorem mem_insertName {x name : String} {names : List String} :
    x ∈ insertName name names ↔ x = name ∨ x ∈ names := by
  induction names with
  | nil => simp [insertName]
  | cons first rest ih =>
      simp only [insertName]
      split
      · simp
      · split
        · next h => subst h; simp
        · simp only [List.mem_cons, ih]
          grind

theorem insertName_ascending {name : String} {names : List String}
    (h : names.Pairwise (· < ·)) : (insertName name names).Pairwise (· < ·) := by
  induction names with
  | nil => simp [insertName]
  | cons first rest ih =>
      obtain ⟨below, ordered⟩ := List.pairwise_cons.1 h
      simp only [insertName]
      split
      · next before =>
          refine List.pairwise_cons.2 ⟨?_, h⟩
          intro x mem
          rcases List.mem_cons.1 mem with rfl | mem
          · exact before
          · exact String.lt_trans before (below x mem)
      · split
        · exact h
        · next before ne =>
            refine List.pairwise_cons.2 ⟨?_, ih ordered⟩
            intro x mem
            rcases mem_insertName.1 mem with rfl | mem
            · exact lt_of_not_lt_of_ne before ne
            · exact below x mem

def insert (set : TypeNames) (name : String) : TypeNames :=
  ⟨insertName name set.names, insertName_ascending set.ascending⟩

def ofList (names : List String) : TypeNames := names.foldl insert empty

def contains (set : TypeNames) (name : String) : Bool := set.names.contains name

def union (a b : TypeNames) : TypeNames := b.names.foldl insert a

def isEmpty (set : TypeNames) : Bool := set.names.isEmpty

def size (set : TypeNames) : Nat := set.names.length

instance : Membership String TypeNames := ⟨fun set name => name ∈ set.names⟩

@[simp] theorem contains_eq_true {set : TypeNames} {name : String} :
    set.contains name = true ↔ name ∈ set := by
  simp [contains, Membership.mem]

@[simp] theorem mem_insert {set : TypeNames} {x name : String} :
    x ∈ set.insert name ↔ x = name ∨ x ∈ set :=
  mem_insertName

theorem mem_foldl_insert {names : List String} {set : TypeNames} {x : String} :
    x ∈ names.foldl insert set ↔ x ∈ names ∨ x ∈ set := by
  induction names generalizing set with
  | nil => simp
  | cons first rest ih =>
      rw [List.foldl_cons, ih, mem_insert, List.mem_cons]
      grind

@[simp] theorem mem_union {a b : TypeNames} {x : String} : x ∈ a.union b ↔ x ∈ a ∨ x ∈ b := by
  rw [union, mem_foldl_insert]
  exact or_comm

def text (set : TypeNames) : String := Text.joined ", " set.names

instance : ToString TypeNames := ⟨text⟩

end TypeNames

end NamespacePolicy
