import NamespacePolicy.Glob

/-!
Globs of folders.  A name without wildcards and `/**` after it make a glob that covers what lies
below the folder of that name, at any depth and with slashes of either kind, and nothing else.
-/

namespace NamespacePolicy.Proofs.FolderGlobs

open Glob

/-- The character stands for itself in a glob, wherever it is written. -/
def IsLiteral (c : Char) : Prop := c ≠ '*' ∧ c ≠ '?' ∧ c ≠ '['

section Reading

variable {fuel position : Nat} {previous : Option Char} {done : List Token}

theorem readTokens_literal {c : Char} (h : IsLiteral c) (rest : List Char) :
    readTokens (fuel + 1) position previous (c :: rest) done =
      readTokens fuel (position + 1) (some c) rest (.char c :: done) := by
  obtain ⟨hasterisk, hmark, hbracket⟩ := h
  rw [readTokens] <;> simp_all

theorem readTokens_literals {literals : List Char} (h : ∀ c ∈ literals, IsLiteral c)
    (rest : List Char) :
    readTokens (fuel + literals.length) position previous (literals ++ rest) done =
      readTokens fuel (position + literals.length) (literals.getLast?.or previous) rest
        ((literals.map .char).reverse ++ done) := by
  induction literals generalizing position previous done with
  | nil => simp
  | cons c literals ih =>
      obtain ⟨hc, hliterals⟩ := List.forall_mem_cons.mp h
      have hposition : position + 1 + literals.length = position + (c :: literals).length := by
        rw [List.length_cons]
        omega
      rw [List.length_cons, ← Nat.add_assoc, List.cons_append, readTokens_literal hc,
        ih hliterals, hposition, List.getLast?_cons]
      cases literals.getLast? <;> simp

/-- Two asterisks after a slash and before the end stand for components. -/
theorem readTokens_components :
    readTokens (fuel + 1) position (some '/') ['*', '*'] (.char '/' :: done) =
      .ok (.anyComponents :: .char '/' :: done).reverse := by
  rw [readTokens]
  simp [asterisks, pushComponents]

end Reading

theorem run_char (c first : Char) (tokens : List Token) (text : List Char) :
    run (.char c :: tokens) (first :: text) =
      if first == c then run tokens text else .mismatch :=
  rfl

theorem run_literals_eq_matched_iff {literals : List Char} {tokens : List Token}
    {text : List Char} :
    run (literals.map .char ++ tokens) text = .matched ↔
      ∃ rest, text = literals ++ rest ∧ run tokens rest = .matched := by
  induction literals generalizing text with
  | nil => simp
  | cons c literals ih =>
      cases text with
      | nil => simp [run]
      | cons first text =>
          rw [List.map_cons, List.cons_append, run_char]
          by_cases hfirst : first = c
          · simp [hfirst, ih]
          · simp [hfirst]

/-- Nothing has to follow, so a wildcard may reach up to the end of the text. -/
theorem skip_run_nil (whole : Bool) (text : List Char) : skip whole (run []) text = .matched := by
  induction text with
  | nil => rfl
  | cons c text ih =>
      rw [skip]
      split
      · exact ih
      · cases text with
        | nil => rfl
        | cons next text => exact ih

theorem run_components (text : List Char) : run [.anyComponents] text = .matched := by
  cases text with
  | nil => rfl
  | cons c text => exact skip_run_nil true (c :: text)

variable {folder : String}

theorem parse_folder (h : ∀ c ∈ folder.toList, IsLiteral c) :
    Glob.parse (folder ++ "/**") =
      .ok ⟨folder ++ "/**", (folder.toList ++ ['/']).map .char ++ [.anyComponents]⟩ := by
  have hslash : ∀ c ∈ folder.toList ++ ['/'], IsLiteral c := by
    intro c hc
    rcases List.mem_append.mp hc with hc | hc
    · exact h c hc
    · rw [List.mem_singleton.mp hc]
      simp [IsLiteral]
  have htext : (folder ++ "/**").toList = (folder.toList ++ ['/']) ++ ['*', '*'] := by simp
  have hempty : folder ++ "/**" ≠ "" := by
    intro hempty
    simp [hempty] at htext
  have hfuel : (folder ++ "/**").length + 1 = 3 + (folder.toList ++ ['/']).length := by
    rw [← String.length_toList, htext, List.length_append]
    exact Nat.add_comm _ 3
  rw [Glob.parse, if_neg hempty, hfuel, htext, readTokens_literals hslash, List.getLast?_concat,
    Option.some_or, List.map_append, List.reverse_append, List.append_nil]
  rw [List.map_singleton, List.reverse_singleton, List.singleton_append, readTokens_components]
  simp [Except.map]

theorem folder?_folder {tokens : List Token} (h : folder.toList.getLast? ≠ some '/') :
    Glob.folder? ⟨folder ++ "/**", tokens⟩ = some folder.toList := by
  have hlast : folder.toList.reverse.dropWhile (· = '/') = folder.toList.reverse := by
    rw [List.getLast?_eq_head?_reverse] at h
    cases hreverse : folder.toList.reverse with
    | nil => rfl
    | cons c rest => simp_all
  have hsuffix : ['/', '*', '*'].isSuffixOf (folder.toList ++ ['/', '*', '*']) = true :=
    List.isSuffixOf_iff_suffix.mpr (List.suffix_append _ _)
  simp [Glob.folder?, hsuffix, hlast]

/-- The glob of a folder covers a path if and only if the path, with slashes for backslashes, goes
on with a slash after the name of the folder. -/
theorem covers_folder_iff (hliteral : ∀ c ∈ folder.toList, c ≠ '*' ∧ c ≠ '?' ∧ c ≠ '[')
    (hend : folder.toList.getLast? ≠ some '/') :
    ∃ g, Glob.parse (folder ++ "/**") = .ok g ∧
      ∀ path : String, g.covers path = true ↔
        folder.toList ++ ['/'] <+: path.toList.map fun c => if c = '\\' then '/' else c := by
  refine ⟨_, parse_folder hliteral, fun path => ?_⟩
  have hrun : run ((folder.toList ++ ['/']).map .char ++ [.anyComponents]) (slashed path) =
      .matched ↔ folder.toList ++ ['/'] <+: slashed path := by
    rw [run_literals_eq_matched_iff]
    constructor
    · rintro ⟨rest, heq, -⟩
      exact ⟨rest, heq.symm⟩
    · rintro ⟨rest, heq⟩
      exact ⟨rest, heq.symm, run_components rest⟩
  rw [Glob.covers, folder?_folder hend, Bool.or_eq_true, beq_iff_eq, List.isPrefixOf_iff_prefix]
  exact (or_congr_left hrun).trans (or_self_iff)

/-- What lies below the folder at any depth is covered; the folder itself and one whose name only
begins alike are not. -/
theorem generated_folder_covered :
    (∀ c ∈ "Gen".toList, c ≠ '*' ∧ c ≠ '?' ∧ c ≠ '[') ∧
      "Gen".toList.getLast? ≠ some '/' ∧
      ∃ g, Glob.parse "Gen/**" = .ok g ∧ g.covers "Gen/A.cs" = true ∧
        g.covers "Gen\\Deep/Down\\A.cs" = true ∧ g.covers "Gen" = false ∧
        g.covers "Gen2/A.cs" = false ∧ g.covers "lib/Gen/A.cs" = false := by
  have hliteral : ∀ c ∈ "Gen".toList, c ≠ '*' ∧ c ≠ '?' ∧ c ≠ '[' := by simp
  have hend : "Gen".toList.getLast? ≠ some '/' := by decide
  obtain ⟨g, hparse, hcovers⟩ := covers_folder_iff hliteral hend
  refine ⟨hliteral, hend, g, hparse, (hcovers _).mpr ?_, (hcovers _).mpr ?_, ?_, ?_, ?_⟩
  · decide
  · decide
  all_goals
    rw [Bool.eq_false_iff, ne_eq, hcovers]
    decide

end NamespacePolicy.Proofs.FolderGlobs
