import Mathlib.Data.List.DropRight
import NamespacePolicy.Files.Path
import NamespacePolicy.Proofs.Separation

/-!
Paths by their parts.  The parts of a path depend on its pieces alone; the parent of a path has all
of its parts but the last one, so the paths that lead to it become ever shorter.
-/

namespace NamespacePolicy.Proofs.Paths

open NamespacePolicy.Path Separation

/-- The part that the first piece stands for.  An empty one begins an absolute path, unless it is
the only piece. -/
def leading (first : String) (rest : List String) : List Part :=
  if first = "" ∧ rest ≠ [] then [.root]
  else if first = "." then [.here]
  else (part? first).toList

def partsOf : List String → List Part
  | [] => []
  | first :: rest => leading first rest ++ rest.filterMap part?

theorem isAbsolute_iff {p : Path} {first : String} {rest : List String}
    (h : p.pieces = first :: rest) : p.isAbsolute = true ↔ first = "" ∧ rest ≠ [] := by
  rw [Path.pieces, Text.pieces] at h
  rw [Path.isAbsolute]
  cases htext : p.text.toList with
  | nil =>
      rw [htext, Text.split, List.map_singleton] at h
      obtain ⟨-, rfl⟩ := List.cons.inj h
      simp
  | cons c others =>
      rw [htext, Text.split] at h
      split at h
      · next hc =>
        obtain ⟨rfl, rfl⟩ := List.cons.inj h
        simp [hc, Text.split_ne_nil]
      · next hc =>
        have hfirst : first ≠ "" := by
          split at h
          · obtain ⟨rfl, -⟩ := List.cons.inj h
            simp
          · obtain ⟨rfl, -⟩ := List.cons.inj h
            simp
        simp [hc, hfirst]

theorem parts_eq (p : Path) : p.parts = partsOf p.pieces := by
  rw [Path.parts]
  cases h : p.pieces with
  | nil => rfl
  | cons first rest =>
      have habsolute := isAbsolute_iff h
      simp only [partsOf, leading, ← habsolute]

theorem leading_congr (first : String) {rest others : List String}
    (h : rest = [] ↔ others = []) : leading first rest = leading first others := by
  simp only [leading, ne_eq, h]

theorem leading_of_ne {first : String} (h : first ≠ "") (rest others : List String) :
    leading first rest = leading first others := by
  simp [leading, h]

theorem partsOf_concat (first : String) (rest : List String) (piece : String) :
    partsOf (first :: (rest ++ [piece])) =
      leading first (rest ++ [piece]) ++ rest.filterMap part? ++ (part? piece).toList := by
  have hpiece : [piece].filterMap part? = (part? piece).toList := by
    cases hpart : part? piece <;> simp [hpart]
  rw [partsOf, List.filterMap_append, hpiece, List.append_assoc]

theorem part?_eq_none_iff (piece : String) : part? piece = none ↔ piece = "" ∨ piece = "." := by
  unfold part?
  split <;> simp_all

section Join

variable {name : String}

theorem isAbsolute_mk_of_not_mem (hslash : '/' ∉ name.toList) :
    (Path.mk name).isAbsolute = false := by
  have hpieces : (Path.mk name).pieces = [name] := pieces_of_not_mem hslash
  have hne : ¬ ((Path.mk name).isAbsolute = true) := by
    rw [isAbsolute_iff hpieces]
    simp
  simpa using hne

/-- The pieces of a path that goes on with a relative one.  A slash at the end of the path is the
one between them, and the empty path has no slash there. -/
theorem pieces_join_of_relative {q : Path} (hq : q.isAbsolute = false) (p : Path) :
    (∃ before, p.pieces = before ++ [""] ∧ (p.join q).pieces = before ++ q.pieces) ∨
      p.text ≠ "" ∧ (p.join q).pieces = p.pieces ++ q.pieces := by
  rw [Path.join, if_neg (by rw [hq]; exact Bool.false_ne_true)]
  split
  · next h =>
    left
    rcases h with hempty | hlast
    · refine ⟨[], ?_, ?_⟩
      · rw [Path.pieces, hempty]
        rfl
      · rw [Path.pieces, hempty, String.empty_append, List.nil_append]
        rfl
    · obtain ⟨init, hinit⟩ := List.getLast?_eq_some_iff.mp hlast
      have htext : p.text = String.ofList init ++ "/" ++ "" := by
        apply String.toList_injective
        simp [hinit]
      refine ⟨Text.pieces '/' (String.ofList init), ?_, ?_⟩
      · rw [Path.pieces, htext, pieces_append_sep rfl]
        rfl
      · simp only [Path.pieces, htext, String.append_empty]
        rw [pieces_append_sep rfl]
  · next h =>
    refine .inr ⟨fun hempty => h (.inl hempty), ?_⟩
    simp only [Path.pieces]
    rw [pieces_append_sep rfl]

theorem pieces_join (hslash : '/' ∉ name.toList) (p : Path) :
    (∃ before, p.pieces = before ++ [""] ∧ (p.join ⟨name⟩).pieces = before ++ [name]) ∨
      p.text ≠ "" ∧ (p.join ⟨name⟩).pieces = p.pieces ++ [name] := by
  have hname : (Path.mk name).pieces = [name] := pieces_of_not_mem hslash
  rw [← hname]
  exact pieces_join_of_relative (isAbsolute_mk_of_not_mem hslash) p

theorem parts_join (hname : part? name = some (.name name)) (hslash : '/' ∉ name.toList)
    (p : Path) : (p.join ⟨name⟩).parts = p.parts ++ [.name name] := by
  rw [parts_eq, parts_eq]
  rcases pieces_join hslash p with ⟨before, hp, hjoin⟩ | ⟨hne, hjoin⟩
  · rw [hp, hjoin]
    cases before with
    | nil =>
        have hnone : ¬ (name = "" ∨ name = ".") := by
          rw [← part?_eq_none_iff, hname]
          exact Option.some_ne_none _
        obtain ⟨-, hdot⟩ := not_or.mp hnone
        have hempty : partsOf ([] ++ [""]) = [] := by decide
        rw [hempty]
        simp [partsOf, leading, hdot, hname]
    | cons first rest =>
        have hleading : leading first (rest ++ [name]) = leading first (rest ++ [""]) :=
          leading_congr first (by simp)
        have hempty : part? "" = none := rfl
        rw [List.cons_append, List.cons_append, partsOf_concat, partsOf_concat, hleading, hname,
          hempty]
        simp
  · rw [hjoin]
    cases hpieces : p.pieces with
    | nil => exact absurd hpieces (pieces_ne_nil _ _)
    | cons first rest =>
        have hleading : leading first (rest ++ [name]) = leading first rest := by
          by_cases hrest : rest = []
          · subst hrest
            have hfirst : p.text = first := eq_of_pieces_singleton hpieces
            exact leading_of_ne (hfirst ▸ hne) _ _
          · exact leading_congr first (by simp [hrest])
        rw [List.cons_append, partsOf_concat, hleading, hname, partsOf]
        rfl

end Join

def trim (rest : List String) : List String :=
  rest.rdropWhile fun piece => piece = "" ∨ piece = "."

theorem trimmed_cons (first : String) (rest : List String) :
    trimmed (first :: rest) = first :: trim rest :=
  rfl

theorem filterMap_trim (rest : List String) :
    (trim rest).filterMap part? = rest.filterMap part? := by
  induction rest using List.reverseRecOn with
  | nil => rfl
  | append_singleton rest piece ih =>
      rw [trim, List.rdropWhile_concat]
      split
      · next h =>
        have hnone : part? piece = none := (part?_eq_none_iff piece).mpr (by simpa using h)
        rw [← trim, ih, List.filterMap_append, List.filterMap_cons_none hnone,
          List.filterMap_nil, List.append_nil]
      · rfl

theorem part?_of_trim_eq_concat {rest init : List String} {last : String}
    (h : trim rest = init ++ [last]) : ∃ part, part? last = some part := by
  have hne : trim rest ≠ [] := by simp [h]
  have hlast := List.rdropWhile_last_not (fun piece => piece = "" ∨ piece = ".") rest hne
  have heq : (trim rest).getLast hne = last := by simp [h]
  rw [← Option.isSome_iff_exists, Option.isSome_iff_ne_none, Ne, part?_eq_none_iff, ← heq]
  simpa [trim] using hlast

theorem leading_eq_singleton {first : String} (h : first ≠ "") (rest : List String) :
    ∃ part, leading first rest = [part] := by
  by_cases hdot : first = "."
  · exact ⟨.here, by simp [leading, hdot]⟩
  · have hpart : part? first ≠ none := by simp [part?_eq_none_iff, h, hdot]
    obtain ⟨part, hpart⟩ := Option.ne_none_iff_exists'.mp hpart
    exact ⟨part, by simp [leading, h, hdot, hpart]⟩

theorem trim_isPrefix (rest : List String) : trim rest <+: rest :=
  List.rdropWhile_prefix _ rest

theorem parent?_of_concat {p : Path} {first last : String} {rest init : List String}
    (hpieces : p.pieces = first :: rest) (htrim : trim rest = init ++ [last]) :
    p.parent? =
      if first :: trim init = [""] then some ⟨"/"⟩
      else some ⟨Text.joined "/" (first :: trim init)⟩ := by
  obtain ⟨second, others, hlong⟩ := List.exists_cons_of_ne_nil (l := init ++ [last]) (by simp)
  have hinit : (second :: others).dropLast = init := by rw [← hlong, List.dropLast_concat]
  rw [parent?, hpieces, trimmed_cons, htrim, hlong]
  simp only [hinit, trimmed_cons]
  split
  · next h => rw [if_pos h]
  · next h => rw [if_neg h]

theorem pieces_joined_trim {p : Path} {first last : String} {rest init : List String}
    (hpieces : p.pieces = first :: rest) (htrim : trim rest = init ++ [last]) :
    (Path.mk (Text.joined "/" (first :: trim init))).pieces = first :: trim init := by
  have hslash : ∀ piece ∈ first :: rest, '/' ∉ piece.toList := by
    rw [← hpieces]
    exact fun piece hmem => not_mem_of_mem_pieces hmem
  have hinit : trim init ⊆ rest := by
    have hprefix : init <+: trim rest := htrim ▸ List.prefix_append init [last]
    exact (((trim_isPrefix init).trans hprefix).trans (trim_isPrefix rest)).subset
  refine pieces_joined rfl (List.cons_ne_nil _ _) ?_
  intro piece hmem
  apply hslash
  rcases List.mem_cons.mp hmem with rfl | hmem
  · exact List.mem_cons_self
  · exact List.mem_cons_of_mem _ (hinit hmem)

theorem parts_parent_of_concat {p q : Path} {first last : String} {rest init : List String}
    (hpieces : p.pieces = first :: rest) (htrim : trim rest = init ++ [last])
    (h : p.parent? = some q) : ∃ part, p.parts = q.parts ++ [part] := by
  obtain ⟨part, hpart⟩ := part?_of_trim_eq_concat htrim
  have hrest : rest ≠ [] := by
    rintro rfl
    simp [trim] at htrim
  have hparts : p.parts = leading first rest ++ init.filterMap part? ++ [part] := by
    have hlast : [last].filterMap part? = [part] := by simp [hpart]
    rw [parts_eq, hpieces, partsOf, ← filterMap_trim, htrim, List.filterMap_append, hlast,
      List.append_assoc]
  refine ⟨part, ?_⟩
  rw [hparts, ← filterMap_trim init]
  rw [parent?_of_concat hpieces htrim] at h
  split_ifs at h with hroot
  · obtain ⟨rfl, hinit⟩ := List.cons.inj hroot
    obtain rfl := Option.some.inj h
    have hslash : (Path.mk "/").parts = [.root] := by decide
    rw [hinit, hslash]
    simp [leading, hrest]
  · obtain rfl := Option.some.inj h
    -- An empty first piece begins an absolute path on both sides, as more pieces follow it.
    have hleading : leading first (trim init) = leading first rest := by
      by_cases hfirst : first = ""
      · have hinit : trim init ≠ [] := by
          intro hinit
          exact hroot (by rw [hfirst, hinit])
        exact leading_congr first (by simp [hinit, hrest])
      · exact leading_of_ne hfirst _ _
    rw [parts_eq, pieces_joined_trim hpieces htrim, partsOf, hleading]

/-- The parent has all parts of a path but the last one. -/
theorem parts_parent {p q : Path} (h : p.parent? = some q) :
    ∃ part, p.parts = q.parts ++ [part] := by
  cases hpieces : p.pieces with
  | nil => exact absurd hpieces (pieces_ne_nil _ _)
  | cons first rest =>
      rcases List.eq_nil_or_concat' (trim rest) with htrim | ⟨init, last, htrim⟩
      · rw [parent?, hpieces, trimmed_cons, htrim] at h
        simp only [Option.ite_none_left_eq_some, Option.some.injEq] at h
        obtain ⟨hfirst, rfl⟩ := h
        obtain ⟨part, hpart⟩ := leading_eq_singleton hfirst rest
        refine ⟨part, ?_⟩
        have hempty : partsOf (Path.mk "").pieces = [] := by decide
        rw [parts_eq, parts_eq, hpieces, partsOf, hpart, ← filterMap_trim, htrim, hempty]
        rfl
      · exact parts_parent_of_concat hpieces htrim h

theorem parts_prefix_of_mem_ancestorsFrom {fuel : Nat} {p a : Path}
    (h : a ∈ ancestorsFrom fuel p) : a.parts <+: p.parts := by
  induction fuel generalizing p with
  | zero => exact absurd h List.not_mem_nil
  | succ fuel ih =>
      rw [ancestorsFrom] at h
      rcases List.mem_cons.mp h with rfl | h
      · exact List.prefix_rfl
      · cases hparent : p.parent? with
        | none => simp [hparent] at h
        | some parent =>
            obtain ⟨part, hparts⟩ := parts_parent hparent
            have hprefix := ih (by simpa [hparent] using h)
            rw [hparts]
            exact hprefix.trans (List.prefix_append _ _)

theorem ancestorsFrom_pairwise (fuel : Nat) (p : Path) :
    (ancestorsFrom fuel p).Pairwise fun a b => b.parts.length < a.parts.length := by
  induction fuel generalizing p with
  | zero => exact .nil
  | succ fuel ih =>
      rw [ancestorsFrom]
      cases hparent : p.parent? with
      | none => simp
      | some parent =>
          refine List.pairwise_cons.mpr ⟨?_, ih parent⟩
          intro a ha
          obtain ⟨part, hparts⟩ := parts_parent hparent
          have hle := (parts_prefix_of_mem_ancestorsFrom ha).length_le
          rw [hparts, List.length_append, List.length_singleton]
          omega

theorem parts_ancestors_nodup (p : Path) : (p.ancestors.map Path.parts).Nodup := by
  rw [List.Nodup, List.pairwise_map]
  refine (ancestorsFrom_pairwise _ p).imp ?_
  intro a b hlt heq
  rw [heq] at hlt
  exact Nat.lt_irrefl _ hlt

end NamespacePolicy.Proofs.Paths
