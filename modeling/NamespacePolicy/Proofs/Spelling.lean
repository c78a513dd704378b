import Mathlib.Data.List.Infix
import NamespacePolicy.Files.Tree
import NamespacePolicy.Proofs.Paths

/-!
Paths that are spelled differently but have the same parts.  As far as the folders above them and
the files in these folders go, the spelling makes no difference.
-/

namespace NamespacePolicy.Proofs.Spelling

open NamespacePolicy.Path Separation Paths

theorem part?_ne_root (piece : String) : part? piece ≠ some .root := by
  unfold part?
  split <;> simp

theorem leading_of_root {rest : List String} (h : rest ≠ []) : leading "" rest = [.root] := by
  simp [leading, h]

/-- How a path can begin: not at all, at the root, or with another part. -/
theorem leading_cases (first : String) (rest : List String) :
    first = "" ∧ rest = [] ∧ leading first rest = [] ∨
      first = "" ∧ rest ≠ [] ∧ leading first rest = [.root] ∨
      first ≠ "" ∧ ∃ part, part ≠ .root ∧ leading first rest = [part] := by
  by_cases hfirst : first = ""
  · subst hfirst
    by_cases hrest : rest = []
    · subst hrest
      exact .inl ⟨rfl, rfl, by decide⟩
    · exact .inr (.inl ⟨rfl, hrest, leading_of_root hrest⟩)
  · obtain ⟨part, hpart⟩ := leading_eq_singleton hfirst rest
    refine .inr (.inr ⟨hfirst, part, ?_, hpart⟩)
    rintro rfl
    simp only [leading, hfirst, false_and, if_false] at hpart
    split at hpart
    · simp at hpart
    · exact part?_ne_root first (Option.toList_eq_singleton_iff.mp hpart)

theorem isAbsolute_iff_head? (p : Path) :
    p.isAbsolute = true ↔ p.parts.head? = some .root := by
  cases hpieces : p.pieces with
  | nil => exact absurd hpieces (pieces_ne_nil _ _)
  | cons first rest =>
      rw [isAbsolute_iff hpieces, parts_eq, hpieces, partsOf]
      rcases leading_cases first rest with
        ⟨-, rfl, hleading⟩ | ⟨rfl, hrest, hleading⟩ | ⟨hfirst, part, hpart, hleading⟩
      · simp [hleading]
      · simp [hleading, hrest]
      · simp [hleading, hfirst, hpart]

theorem isAbsolute_congr {p q : Path} (h : p.parts = q.parts) :
    p.isAbsolute = q.isAbsolute := by
  rw [Bool.eq_iff_iff, isAbsolute_iff_head?, isAbsolute_iff_head?, h]

theorem isAbsolute_of_parts_append {p q : Path} (hp : p.isAbsolute = true) {rest : List Part}
    (h : q.parts = p.parts ++ rest) : q.isAbsolute = true := by
  rw [isAbsolute_iff_head?] at hp ⊢
  rw [h, List.head?_append, hp, Option.some_or]

theorem text_ne_empty {p : Path} (h : p.isAbsolute = true) : p.text ≠ "" := by
  intro htext
  rw [Path.isAbsolute, htext] at h
  exact absurd h (by decide)

theorem trim_eq_nil_iff (rest : List String) : trim rest = [] ↔ rest.filterMap part? = [] := by
  simp only [trim, List.rdropWhile_eq_nil_iff, List.filterMap_eq_nil_iff, part?_eq_none_iff,
    decide_eq_true_eq]

theorem parent?_eq_none_iff_pieces {p : Path} {first : String} {rest : List String}
    (hpieces : p.pieces = first :: rest) : p.parent? = none ↔ first = "" ∧ trim rest = [] := by
  rcases List.eq_nil_or_concat' (trim rest) with htrim | ⟨init, last, htrim⟩
  · rw [parent?, hpieces, trimmed_cons, htrim]
    simp
  · rw [parent?_of_concat hpieces htrim]
    split <;> simp [htrim]

theorem parent?_eq_none_iff (p : Path) :
    p.parent? = none ↔ p.parts = [] ∨ p.parts = [.root] := by
  cases hpieces : p.pieces with
  | nil => exact absurd hpieces (pieces_ne_nil _ _)
  | cons first rest =>
      rw [parent?_eq_none_iff_pieces hpieces, trim_eq_nil_iff, parts_eq, hpieces, partsOf]
      rcases leading_cases first rest with
        ⟨hfirst, rfl, hleading⟩ | ⟨hfirst, -, hleading⟩ | ⟨hfirst, part, hpart, hleading⟩
      · rw [hleading]
        simp [hfirst]
      · rw [hleading]
        simp [hfirst]
      · rw [hleading]
        simp [hfirst, hpart]

theorem parts_length_le (p : Path) : p.parts.length ≤ p.pieces.length := by
  cases hpieces : p.pieces with
  | nil => exact absurd hpieces (pieces_ne_nil _ _)
  | cons first rest =>
      have hleading : (leading first rest).length ≤ 1 := by
        rcases leading_cases first rest with
          ⟨-, -, hleading⟩ | ⟨-, -, hleading⟩ | ⟨-, part, -, hleading⟩ <;> simp [hleading]
      have hrest : (rest.filterMap part?).length ≤ rest.length := List.length_filterMap_le ..
      rw [parts_eq, hpieces, partsOf, List.length_append, List.length_cons]
      omega

theorem isAbsolute_parent {p q : Path} (hp : p.isAbsolute = true) (h : p.parent? = some q) :
    q.isAbsolute = true := by
  obtain ⟨part, hparts⟩ := parts_parent h
  have hsome : ¬ (p.parts = [] ∨ p.parts = [.root]) := by
    rw [← parent?_eq_none_iff, h]
    exact Option.some_ne_none q
  rw [isAbsolute_iff_head?] at hp ⊢
  rw [hparts] at hp hsome
  cases hq : q.parts with
  | nil => simp_all
  | cons first rest => simpa [hq] using hp

theorem map_parts_ancestorsFrom {fuel : Nat} {p : Path} (hp : p.isAbsolute = true)
    (hfuel : p.parts.length ≤ fuel) :
    (ancestorsFrom fuel p).map Path.parts = p.parts.inits.tail.reverse := by
  induction fuel generalizing p with
  | zero =>
      rw [isAbsolute_iff_head?, List.length_eq_zero_iff.mp (Nat.le_zero.mp hfuel)] at hp
      exact absurd hp (by simp)
  | succ fuel ih =>
      rw [ancestorsFrom, List.map_cons]
      cases hparent : p.parent? with
      | none =>
          have hroot : p.parts = [.root] := by
            rcases (parent?_eq_none_iff p).mp hparent with hparts | hparts
            · rw [isAbsolute_iff_head?, hparts] at hp
              exact absurd hp (by simp)
            · exact hparts
          rw [hroot]
          rfl
      | some q =>
          obtain ⟨part, hparts⟩ := parts_parent hparent
          have hne : q.parts.inits ≠ [] :=
            List.ne_nil_of_mem ((List.mem_inits _ _).mpr List.nil_prefix)
          rw [hparts, List.length_append, List.length_singleton] at hfuel
          simp only
          rw [ih (isAbsolute_parent hp hparent) (by omega), hparts, List.inits_append,
            List.tail_append_of_ne_nil hne, List.reverse_append]
          rfl

/-- The folders above an absolute path are the beginnings of its parts, the longest first. -/
theorem map_parts_ancestors {p : Path} (hp : p.isAbsolute = true) :
    p.ancestors.map Path.parts = p.parts.inits.tail.reverse :=
  map_parts_ancestorsFrom hp ((parts_length_le p).trans (Nat.le_succ _))

theorem isAbsolute_of_mem_ancestors {p a : Path} (hp : p.isAbsolute = true)
    (h : a ∈ p.ancestors) : a.isAbsolute = true := by
  have hmem : a.parts ∈ p.parts.inits.tail := by
    rw [← List.mem_reverse, ← map_parts_ancestors hp]
    exact List.mem_map_of_mem h
  rw [isAbsolute_iff_head?] at hp ⊢
  cases hparts : p.parts with
  | nil => simp [hparts] at hp
  | cons first rest =>
      rw [hparts, List.inits_cons, List.tail_cons, List.mem_map] at hmem
      obtain ⟨others, -, hothers⟩ := hmem
      rw [← hothers, List.head?_cons]
      rwa [hparts, List.head?_cons] at hp

/-- The pieces that are not skipped on a walk. -/
def steps (pieces : List String) : List String := pieces.filter fun piece => (part? piece).isSome

theorem steps_cons_of_none {piece : String} (h : part? piece = none) (rest : List String) :
    steps (piece :: rest) = steps rest := by
  simp [steps, h]

theorem steps_cons_of_ne_none {piece : String} (h : part? piece ≠ none) (rest : List String) :
    steps (piece :: rest) = piece :: steps rest :=
  List.filter_cons_of_pos (Option.isSome_iff_ne_none.mpr h)

theorem steps_append (pieces rest : List String) :
    steps (pieces ++ rest) = steps pieces ++ steps rest :=
  List.filter_append ..

theorem steps_steps (pieces : List String) : steps (steps pieces) = steps pieces := by
  simp [steps]

theorem text_of_part? {piece : String} {part : Part} (h : part? piece = some part) :
    part.text = piece := by
  unfold part? at h
  split at h
  · simp at h
  · simp at h
  · exact Option.some.inj h ▸ rfl
  · exact Option.some.inj h ▸ rfl

theorem map_text_filterMap (pieces : List String) :
    (pieces.filterMap part?).map Part.text = steps pieces := by
  induction pieces with
  | nil => rfl
  | cons piece rest ih =>
      cases hpart : part? piece with
      | none => rw [List.filterMap_cons_none hpart, steps_cons_of_none hpart, ih]
      | some part =>
          have hne : part? piece ≠ none := hpart ▸ Option.some_ne_none part
          rw [List.filterMap_cons_some hpart, List.map_cons, text_of_part? hpart, ih,
            steps_cons_of_ne_none hne]

theorem steps_pieces {p : Path} (h : p.isAbsolute = true) :
    steps p.pieces = p.parts.tail.map Part.text := by
  cases hpieces : p.pieces with
  | nil => exact absurd hpieces (pieces_ne_nil _ _)
  | cons first rest =>
      obtain ⟨rfl, hrest⟩ := (isAbsolute_iff hpieces).mp h
      rw [parts_eq, hpieces, partsOf, leading_of_root hrest, List.singleton_append, List.tail_cons,
        map_text_filterMap, steps_cons_of_none rfl]

section Walk

variable (root : FileNode) {follow : List String → List String → Except AccessError Place}

/-- What is skipped still has to be looked for in a folder, as has what comes after it. -/
theorem walkBy_of_part?_eq_none (here : List String) {piece : String} (h : part? piece = none)
    {rest : List String} (hrest : rest ≠ []) :
    walkBy root follow here (piece :: rest) = walkBy root follow here rest := by
  obtain ⟨next, others, rfl⟩ := List.exists_cons_of_ne_nil hrest
  have hdot := (part?_eq_none_iff piece).mp h
  rw [walkBy]
  cases hnode : root.at? here with
  | none => rw [walkBy, hnode]
  | some node =>
      cases node with
      | folder entries => exact if_pos hdot
      | file content modified => rw [walkBy, hnode]
      | link target => rw [walkBy, hnode]

/-- What follows a piece can be replaced by what leads to the same place, from the next folder as
well as after the target of a link. -/
theorem walkBy_cons_congr (here : List String) (piece : String) {rest others : List String}
    (h : rest = [] ↔ others = [])
    (hnext : ∀ next, walkBy root follow next rest = walkBy root follow next others)
    (hfollow : ∀ start target, follow start (target ++ rest) = follow start (target ++ others)) :
    walkBy root follow here (piece :: rest) = walkBy root follow here (piece :: others) := by
  have hempty : rest.isEmpty = others.isEmpty := by
    rw [Bool.eq_iff_iff, List.isEmpty_iff, List.isEmpty_iff, h]
  rw [walkBy, walkBy]
  cases root.at? here with
  | none => rfl
  | some node =>
      cases node with
      | file content modified => rfl
      | link target => rfl
      | folder entries => simp only [hnext, hempty, hfollow]

theorem walkBy_steps {last : String}
    (hfollow : ∀ start pieces,
      follow start (steps pieces ++ [last]) = follow start (pieces ++ [last]))
    (here pieces : List String) :
    walkBy root follow here (steps pieces ++ [last]) =
      walkBy root follow here (pieces ++ [last]) := by
  induction pieces generalizing here with
  | nil => rfl
  | cons piece rest ih =>
      by_cases hpart : part? piece = none
      · rw [steps_cons_of_none hpart, ih, List.cons_append,
          walkBy_of_part?_eq_none root here hpart (List.concat_ne_nil last rest)]
      · rw [steps_cons_of_ne_none hpart, List.cons_append, List.cons_append]
        refine walkBy_cons_congr root here piece ?_ ih ?_
        · simp
        · intro start target
          calc
            follow start (target ++ (steps rest ++ [last]))
                = follow start (steps (target ++ steps rest) ++ [last]) := by
                  rw [hfollow, List.append_assoc]
            _ = follow start (steps (target ++ rest) ++ [last]) := by
                  rw [steps_append, steps_steps, ← steps_append]
            _ = follow start (target ++ (rest ++ [last])) := by
                  rw [hfollow, List.append_assoc]

/-- Something in a folder is reached by the pieces that are not skipped. -/
theorem walk_steps (links : Nat) (here pieces : List String) (last : String) :
    walk root links here (steps pieces ++ [last]) = walk root links here (pieces ++ [last]) := by
  induction links generalizing here pieces with
  | zero => exact walkBy_steps root (fun _ _ => rfl) here pieces
  | succ links ih => exact walkBy_steps root ih here pieces

end Walk

theorem locate_of_isAbsolute (t : FileTree) {p : Path} (hp : p.isAbsolute = true) :
    t.locate p = walk t.root FileTree.maxLinks [] p.pieces := by
  rw [FileTree.locate, if_neg (text_ne_empty hp), Path.join, if_pos hp]

section Join

variable {name : String}

/-- The walk to something in a folder, by the parts of the folder. -/
theorem locate_join (hname : part? name = some (.name name)) (hslash : '/' ∉ name.toList)
    (t : FileTree) {p : Path} (hp : p.isAbsolute = true) :
    t.locate (p.join ⟨name⟩) =
      walk t.root FileTree.maxLinks [] (p.parts.tail.map Part.text ++ [name]) := by
  have hjoin : (p.join ⟨name⟩).isAbsolute = true :=
    isAbsolute_of_parts_append hp (parts_join hname hslash p)
  have hpieces : ∃ before, (p.join ⟨name⟩).pieces = before ++ [name] ∧
      steps before = steps p.pieces := by
    rcases pieces_join hslash p with ⟨before, hbefore, hpieces⟩ | ⟨-, hpieces⟩
    · refine ⟨before, hpieces, ?_⟩
      rw [hbefore, steps_append, steps_cons_of_none rfl]
      exact (List.append_nil _).symm
    · exact ⟨p.pieces, hpieces, rfl⟩
  obtain ⟨before, hpieces, hsteps⟩ := hpieces
  rw [locate_of_isAbsolute t hjoin, hpieces, ← walk_steps, hsteps, steps_pieces hp]

theorem node?_join_congr (hname : part? name = some (.name name)) (hslash : '/' ∉ name.toList)
    (t : FileTree) {p q : Path} (hp : p.isAbsolute = true) (h : p.parts = q.parts) :
    t.node? (p.join ⟨name⟩) = t.node? (q.join ⟨name⟩) := by
  have hlocate : t.locate (p.join ⟨name⟩) = t.locate (q.join ⟨name⟩) := by
    rw [locate_join hname hslash t hp, h,
      locate_join hname hslash t (isAbsolute_congr h ▸ hp)]
  rw [FileTree.node?, FileTree.node?, FileTree.existing?, FileTree.existing?, hlocate]

end Join

/-- A path that is made of parts which pieces stand for has these parts. -/
theorem parts_ofParts {rest : List Part}
    (h : ∀ part ∈ rest, part? part.text = some part ∧ '/' ∉ part.text.toList) :
    (ofParts (.root :: rest)).parts = .root :: rest := by
  cases hrest : rest with
  | nil => decide
  | cons first others =>
      rw [← hrest]
      have htext : ofParts (.root :: rest) = ⟨Text.joined "/" ("" :: rest.map Part.text)⟩ := by
        rw [hrest]
        rfl
      have hpieces : (ofParts (.root :: rest)).pieces = "" :: rest.map Part.text := by
        rw [htext]
        refine pieces_joined rfl (List.cons_ne_nil _ _) ?_
        intro piece hpiece
        rcases List.mem_cons.mp hpiece with rfl | hpiece
        · simp
        · obtain ⟨part, hpart, rfl⟩ := List.mem_map.mp hpiece
          exact (h part hpart).2
      have hparts : (rest.map Part.text).filterMap part? = rest := by
        have hsome : ∀ part ∈ rest, (part? ∘ Part.text) part = some part :=
          fun part hpart => (h part hpart).1
        rw [List.filterMap_map, List.filterMap_congr hsome, List.filterMap_some]
      rw [parts_eq, hpieces, partsOf, hparts, leading_of_root (by simp [hrest])]
      rfl

theorem parts_of_isAbsolute {p : Path} (h : p.isAbsolute = true) :
    ∃ rest, p.parts = .root :: rest ∧
      ∀ part ∈ rest, part? part.text = some part ∧ '/' ∉ part.text.toList := by
  cases hpieces : p.pieces with
  | nil => exact absurd hpieces (pieces_ne_nil _ _)
  | cons first rest =>
      obtain ⟨rfl, hrest⟩ := (isAbsolute_iff hpieces).mp h
      refine ⟨rest.filterMap part?, ?_, ?_⟩
      · rw [parts_eq, hpieces, partsOf, leading_of_root hrest, List.singleton_append]
      · intro part hpart
        obtain ⟨piece, hpiece, hsome⟩ := List.mem_filterMap.mp hpart
        have hmem : piece ∈ p.pieces := hpieces ▸ List.mem_cons_of_mem _ hpiece
        rw [text_of_part? hsome]
        exact ⟨hsome, not_mem_of_mem_pieces hmem⟩

/-- No name in the path is left again by going up. -/
def IsStraight (p : Path) : Prop :=
  ∀ before name after, p.parts ≠ before ++ .name name :: .up :: after

theorem foldl_fold_eq {done parts : List Part} (hhere : .here ∉ parts)
    (hup : ∀ before name after, done.reverse ++ parts ≠ before ++ .name name :: .up :: after) :
    parts.foldl fold done = parts.reverse ++ done := by
  induction parts generalizing done with
  | nil => rfl
  | cons part rest ih =>
      have hpart : fold done part = part :: done := by
        unfold fold
        split
        · exact absurd List.mem_cons_self hhere
        · next name done => exact absurd (by simp) (hup done.reverse name rest)
        · rfl
      have hrest : .here ∉ rest := fun h => hhere (List.mem_cons_of_mem _ h)
      rw [List.foldl_cons, hpart, ih hrest (by simpa using hup)]
      simp

theorem parts_normalized {p : Path} (hp : p.isAbsolute = true) (h : IsStraight p) :
    p.normalized.parts = p.parts := by
  obtain ⟨rest, hparts, hrest⟩ := parts_of_isAbsolute hp
  have hhere : Part.here ∉ p.parts := by
    rw [hparts]
    intro hmem
    rcases List.mem_cons.mp hmem with hroot | hmem
    · simp at hroot
    · exact absurd (hrest _ hmem).1 (by decide)
  have hfold : p.parts.foldl fold [] = p.parts.reverse := by
    rw [foldl_fold_eq hhere (by simpa [IsStraight] using h), List.append_nil]
  rw [normalized, hfold, List.reverse_reverse, hparts, parts_ofParts hrest]

end NamespacePolicy.Proofs.Spelling
