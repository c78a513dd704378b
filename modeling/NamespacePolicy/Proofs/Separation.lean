import Mathlib.Data.List.Basic
import Mathlib.Data.String.Basic
import NamespacePolicy.Text.Split

/-!
Texts and their pieces.  Texts with a separator between them have the pieces of both, and pieces
that hold no separator come back when they are joined and cut again.
-/

namespace NamespacePolicy.Proofs.Separation

open Text

section Characters

variable {sep : Char}

theorem split_append_sep (sep : Char) (a b : List Char) :
    split sep (a ++ sep :: b) = split sep a ++ split sep b := by
  induction a with
  | nil => simp [split]
  | cons c rest ih =>
      simp only [List.cons_append, split]
      by_cases hc : c = sep
      · rw [if_pos hc, if_pos hc, ih, List.cons_append]
      · rw [if_neg hc, if_neg hc, ih]
        cases hrest : split sep rest with
        | nil => exact absurd hrest (split_ne_nil sep rest)
        | cons piece pieces => rfl

theorem split_of_not_mem {text : List Char} (h : sep ∉ text) : split sep text = [text] := by
  induction text with
  | nil => rfl
  | cons c rest ih =>
      obtain ⟨hc, hrest⟩ := not_or.mp (mt List.mem_cons.mpr h)
      rw [split, if_neg (Ne.symm hc), ih hrest]

theorem split_replicate (n : Nat) :
    split sep (List.replicate n sep) = List.replicate (n + 1) [] := by
  induction n with
  | zero => rfl
  | succ n ih => rw [List.replicate_succ, split, if_pos rfl, ih, ← List.replicate_succ]

theorem not_mem_of_mem_split {text piece : List Char} (h : piece ∈ split sep text) :
    sep ∉ piece := by
  induction text generalizing piece with
  | nil =>
      obtain rfl : piece = [] := by simpa [split] using h
      exact List.not_mem_nil
  | cons c rest ih =>
      rw [split] at h
      split at h
      · rcases List.mem_cons.mp h with rfl | h
        · exact List.not_mem_nil
        · exact ih h
      · next hc =>
        split at h
        · next hrest => exact absurd hrest (split_ne_nil sep rest)
        · next first others hrest =>
          rcases List.mem_cons.mp h with rfl | h
          · have hfirst : sep ∉ first := ih (hrest ▸ List.mem_cons_self)
            exact fun hmem => (List.mem_cons.mp hmem).elim (fun heq => hc heq.symm) hfirst
          · exact ih (hrest ▸ List.mem_cons_of_mem _ h)

/-- No character is lost but separators. -/
theorem exists_mem_split {text : List Char} {c : Char} (h : c ∈ text) (hc : c ≠ sep) :
    ∃ piece ∈ split sep text, c ∈ piece := by
  induction text with
  | nil => exact absurd h List.not_mem_nil
  | cons first rest ih =>
      by_cases hfirst : first = sep
      · have hrest : c ∈ rest := (List.mem_cons.mp h).resolve_left fun heq => hc (heq.trans hfirst)
        obtain ⟨piece, hpiece, hmem⟩ := ih hrest
        rw [split, if_pos hfirst]
        exact ⟨piece, List.mem_cons_of_mem _ hpiece, hmem⟩
      · rw [split, if_neg hfirst]
        cases hsplit : split sep rest with
        | nil => exact absurd hsplit (split_ne_nil sep rest)
        | cons piece pieces =>
            rcases List.mem_cons.mp h with rfl | hrest
            · exact ⟨_, List.mem_cons_self, List.mem_cons_self⟩
            · obtain ⟨found, hfound, hmem⟩ := ih hrest
              rw [hsplit] at hfound
              rcases List.mem_cons.mp hfound with rfl | hfound
              · exact ⟨_, List.mem_cons_self, List.mem_cons_of_mem _ hmem⟩
              · exact ⟨found, List.mem_cons_of_mem _ hfound, hmem⟩

theorem join_append (sep : Char) {a b : List (List Char)} (ha : a ≠ []) (hb : b ≠ []) :
    join sep (a ++ b) = join sep a ++ sep :: join sep b := by
  induction a with
  | nil => exact absurd rfl ha
  | cons piece rest ih =>
      rw [List.cons_append, join_cons_of_ne_nil sep piece (by simp [hb])]
      by_cases hrest : rest = []
      · subst hrest
        rfl
      · rw [ih hrest, join_cons_of_ne_nil sep piece hrest, List.append_assoc, List.cons_append]

theorem mem_join {pieces : List (List Char)} {piece : List Char} (h : piece ∈ pieces) {c : Char}
    (hc : c ∈ piece) : c ∈ join sep pieces := by
  induction pieces with
  | nil => exact absurd h List.not_mem_nil
  | cons first rest ih =>
      by_cases hrest : rest = []
      · subst hrest
        obtain rfl := List.mem_singleton.mp h
        exact hc
      · rw [join_cons_of_ne_nil sep first hrest, List.mem_append, List.mem_cons]
        rcases List.mem_cons.mp h with rfl | h
        · exact .inl hc
        · exact .inr (.inr (ih h))

theorem length_split (sep : Char) (text : List Char) :
    (split sep text).length = text.count sep + 1 := by
  induction text with
  | nil => rfl
  | cons c rest ih =>
      rw [split]
      split
      · next hc => rw [List.length_cons, ih, hc, List.count_cons_self]
      · next hc =>
        rw [List.count_cons_of_ne hc]
        split
        · next hrest => exact absurd hrest (split_ne_nil sep rest)
        · next piece pieces hrest => rw [← ih, hrest, List.length_cons, List.length_cons]

end Characters

section Strings

variable {sep : Char}

theorem length_le_utf8Len (text : List Char) : text.length ≤ String.utf8Len text := by
  induction text with
  | nil => rfl
  | cons c rest ih =>
      have hc := c.utf8Size_pos
      rw [List.length_cons, String.utf8Len_cons]
      omega

theorem ofList_injective : Function.Injective String.ofList :=
  fun _ _ h => String.ofList_injective h

theorem pieces_ne_nil (sep : Char) (text : String) : pieces sep text ≠ [] := by
  simp [pieces, split_ne_nil]

theorem pieces_injective (sep : Char) : Function.Injective (pieces sep) := by
  intro a b h
  have hsplit := (List.map_injective_iff.mpr ofList_injective) h
  rw [← String.toList_inj, ← join_split sep a.toList, hsplit, join_split]

theorem pieces_of_not_mem {text : String} (h : sep ∉ text.toList) : pieces sep text = [text] := by
  rw [pieces, split_of_not_mem h, List.map_singleton, String.ofList_toList]

theorem eq_of_pieces_singleton {text piece : String} (h : pieces sep text = [piece]) :
    text = piece := by
  obtain ⟨chars, hchars, hpiece⟩ := List.map_eq_singleton_iff.mp h
  have htext : text.toList = chars := by rw [← join_split sep text.toList, hchars, join]
  rw [← hpiece, ← htext, String.ofList_toList]

/-- A text has no more pieces than it has bytes, and one. -/
theorem length_pieces_le (sep : Char) (text : String) :
    (pieces sep text).length ≤ text.utf8ByteSize + 1 := by
  have hcount : text.toList.count sep ≤ text.toList.length := List.count_le_length
  have hbytes := length_le_utf8Len text.toList
  rw [String.utf8Len_toList] at hbytes
  rw [pieces, List.length_map, length_split]
  omega

theorem not_mem_of_mem_pieces {text piece : String} (h : piece ∈ pieces sep text) :
    sep ∉ piece.toList := by
  obtain ⟨chars, hchars, rfl⟩ := List.mem_map.mp h
  rw [String.toList_ofList]
  exact not_mem_of_mem_split hchars

theorem mem_of_mem_pieces {text piece : String} (h : piece ∈ pieces sep text) {c : Char}
    (hc : c ∈ piece.toList) : c ∈ text.toList := by
  obtain ⟨chars, hchars, rfl⟩ := List.mem_map.mp h
  rw [String.toList_ofList] at hc
  rw [← join_split sep text.toList]
  exact mem_join hchars hc

variable {between : String} (hbetween : between.toList = [sep])

include hbetween

theorem pieces_append_sep (a b : String) :
    pieces sep (a ++ between ++ b) = pieces sep a ++ pieces sep b := by
  simp only [pieces, String.toList_append, hbetween, List.append_assoc, List.singleton_append]
  rw [split_append_sep, List.map_append]

theorem pieces_joined {texts : List String} (hne : texts ≠ [])
    (h : ∀ text ∈ texts, sep ∉ text.toList) : pieces sep (joined between texts) = texts := by
  induction texts with
  | nil => exact absurd rfl hne
  | cons first rest ih =>
      have hfirst := pieces_of_not_mem (h first List.mem_cons_self)
      cases rest with
      | nil => exact hfirst
      | cons second others =>
          have hrest := ih (List.cons_ne_nil _ _) fun text hmem =>
            h text (List.mem_cons_of_mem _ hmem)
          rw [joined, pieces_append_sep hbetween, hfirst, hrest, List.singleton_append]
          exact List.cons_ne_nil _ _

theorem toList_joined (texts : List String) :
    (joined between texts).toList = join sep (texts.map String.toList) := by
  induction texts with
  | nil => rfl
  | cons first rest ih =>
      cases rest with
      | nil => rfl
      | cons second others =>
          rw [List.map_cons, join_cons_of_ne_nil sep first.toList (by simp), ← ih, joined,
            String.toList_append, String.toList_append, hbetween, List.append_assoc,
            List.singleton_append]
          exact List.cons_ne_nil _ _

theorem joined_pieces (text : String) : joined between (pieces sep text) = text := by
  have hlists : (pieces sep text).map String.toList = split sep text.toList := by
    simp [pieces, Function.comp_def]
  rw [← String.toList_inj, toList_joined hbetween, hlists, join_split]

/-- So are texts counted that were joined. -/
theorem length_le_of_joined (texts : List String) :
    texts.length ≤ (joined between texts).utf8ByteSize + 1 := by
  induction texts with
  | nil => exact Nat.zero_le _
  | cons first rest ih =>
      cases rest with
      | nil => exact Nat.le_add_left _ _
      | cons second others =>
          have hone : 1 ≤ between.utf8ByteSize := by
            rw [← String.utf8Len_toList, hbetween, String.utf8Len_cons]
            exact Nat.le_add_left_of_le sep.utf8Size_pos
          rw [joined, String.utf8ByteSize_append, String.utf8ByteSize_append, List.length_cons]
          · omega
          · exact List.cons_ne_nil _ _

end Strings

end NamespacePolicy.Proofs.Separation
