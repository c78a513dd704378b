import Mathlib.Data.List.Chain
import Mathlib.Data.List.DropRight
import NamespacePolicy.Pattern.Basic
import NamespacePolicy.Proofs.Separation

/-!
The grammar of patterns.  What a text means is said by its shape alone: where it has slashes, dots
and wildcards once the blanks around it are gone.  A text that has no meaning is refused for the
first of its components that is at fault.
-/

namespace NamespacePolicy.Proofs.PatternGrammar

open Separation Text
open Wildcard (readComponents)

/-- A spelling of the global domain, or a name whose components are not empty. -/
inductive ReadsName (name : String) : Except PatternError Domain → Prop
  | global (h : name ∈ Domain.globalSpellings) : ReadsName name (.ok .global)
  | name (hglobal : name ∉ Domain.globalSpellings) (hparts : ∀ part ∈ pieces '.' name, part ≠ "") :
      ReadsName name (.ok ⟨name⟩)
  | empty (hglobal : name ∉ Domain.globalSpellings) (hpart : "" ∈ pieces '.' name) :
      ReadsName name (.error (.emptyComponent name))

def IsComponent (part : String) : Prop :=
  part ≠ "" ∧ (part = "?" ∨ part = "*" ∨ hasWildcard part = false)

/-- The components of a wildcard pattern: no two `*` follow each other. -/
structure WellFormed (parts : List String) : Prop where
  component : ∀ part ∈ parts, IsComponent part
  apart : parts.IsChain fun part next => ¬ (part = "*" ∧ next = "*")

/-- The fault of a component that comes after `previous`. -/
inductive Offends (pattern : String) : (previous : Option String) → (part : String) →
    PatternError → Prop
  | empty (previous : Option String) : Offends pattern previous "" (.emptyComponent pattern)
  | adjacent : Offends pattern (some "*") "*" (.adjacentAnyWildcards pattern)
  | mixed (previous : Option String) {part : String} (hone : part ≠ "?") (hmany : part ≠ "*")
      (hwild : hasWildcard part = true) :
      Offends pattern previous part (.mixedComponent pattern part)

/-- The fault of the leftmost component that has one. -/
def FirstOffence (pattern : String) (parts : List String) (e : PatternError) : Prop :=
  ∃ before part after, parts = before ++ part :: after ∧ WellFormed before ∧
    Offends pattern before.getLast? part e

def componentOf (part : String) : WildcardComponent :=
  if part = "?" then .anyOne else if part = "*" then .anyMany else .literal part

def StartsWithSlash (t : String) : Prop := t.toList.head? = some '/'

/-- What the text `t`, which has no blanks at its ends, means as a pattern. -/
inductive Reads (t : String) : PatternSyntax → Except PatternError Pattern → Prop
  | expression (kind : PatternSyntax) {body : String} {meaning : Regex.CharExpr}
      (ht : t = "/" ++ body ++ "/") (hbody : body ≠ "")
      (hcompiled : Regex.compile? (anchored body.toList) = some meaning) :
      Reads t kind (.ok (.expression ⟨body, meaning, hcompiled⟩))
  | malformedExpression (kind : PatternSyntax) (hslash : StartsWithSlash t)
      (ht : ¬ ∃ body, t = "/" ++ body ++ "/" ∧ body ≠ "") :
      Reads t kind (.error (.malformedRegex t))
  | invalidExpression (kind : PatternSyntax) {body : String} (ht : t = "/" ++ body ++ "/")
      (hbody : body ≠ "") (hcompiled : Regex.compile? (anchored body.toList) = none) :
      Reads t kind (.error (.invalidRegex t))
  | exact (kind : PatternSyntax) (hslash : ¬ StartsWithSlash t) (hplain : hasWildcard t = false)
      {name : Except PatternError Domain} (hname : ReadsName t name) :
      Reads t kind (name.map .exact)
  | wildcard (hslash : ¬ StartsWithSlash t) (hwild : hasWildcard t = true)
      (hparts : WellFormed (pieces '.' t)) :
      Reads t .wildcard (.ok (.wildcard ⟨(pieces '.' t).map componentOf⟩))
  | wildcardOffence (hslash : ¬ StartsWithSlash t) (hwild : hasWildcard t = true)
      {e : PatternError} (he : FirstOffence t (pieces '.' t) e) : Reads t .wildcard (.error e)
  | globalTree (ht : t = "*") : Reads t .tree (.ok (.tree ⟨.global⟩))
  | tree (hslash : ¬ StartsWithSlash t) {root : String} (ht : t = root ++ ".*")
      (hroot : hasWildcard root = false) {name : Except PatternError Domain}
      (hname : ReadsName (trim root) name) : Reads t .tree (name.map (.tree ∘ Tree.mk))
  | invalidTree (hslash : ¬ StartsWithSlash t) (hwild : hasWildcard t = true) (hstar : t ≠ "*")
      (ht : ¬ ∃ root, t = root ++ ".*" ∧ hasWildcard root = false) :
      Reads t .tree (.error (.invalidTree t))

section Blanks

variable (cs : List Char) (s : String)

theorem trimChars_eq : trimChars cs = (cs.dropWhile isBlank).rdropWhile isBlank :=
  rfl

theorem trimChars_trimChars : trimChars (trimChars cs) = trimChars cs := by
  have hfirst : (trimChars cs).dropWhile isBlank = trimChars cs := by
    rw [List.dropWhile_eq_self_iff]
    intro hlength
    have hfront : trimChars cs <+: cs.dropWhile isBlank := List.rdropWhile_prefix ..
    rw [hfront.getElem hlength]
    exact List.dropWhile_get_zero_not isBlank cs (hlength.trans_le hfront.length_le)
  rw [trimChars_eq (trimChars cs), hfirst, trimChars_eq, List.rdropWhile_idempotent]

theorem trim_trim : trim (trim s) = trim s := by
  rw [trim, trim, String.toList_ofList, trimChars_trimChars]

variable {cs s}

theorem dropWhile_of_trimmed (h : trimChars cs = cs) : cs.dropWhile isBlank = cs := by
  have hfront : cs <+: cs.dropWhile isBlank := by
    conv_lhs => rw [← h]
    exact List.rdropWhile_prefix ..
  exact (List.dropWhile_suffix isBlank).eq_of_length_le hfront.length_le

theorem trimChars_of_trim (h : trim s = s) : trimChars s.toList = s.toList := by
  conv_rhs => rw [← h]
  rw [trim, String.toList_ofList]

/-- An asterisk at the end leaves no blank there. -/
theorem trim_append_star (h : trim s = s) (hne : s ≠ "") : trim (s ++ ".*") = s ++ ".*" := by
  have hfirst := dropWhile_of_trimmed (trimChars_of_trim h)
  have hnonempty : (s.toList.dropWhile isBlank).isEmpty = false := by
    rw [hfirst, List.isEmpty_eq_false_iff]
    exact mt String.toList_eq_nil_iff.mp hne
  have hlast : ".*".toList = ['.'] ++ ['*'] := rfl
  rw [trim, trimChars_eq, String.toList_append, List.dropWhile_append, hnonempty,
    if_neg Bool.false_ne_true, hfirst, hlast, ← List.append_assoc,
    List.rdropWhile_concat_neg _ _ _ (by decide), ← String.toList_inj, String.toList_ofList,
    String.toList_append, List.append_assoc, hlast]

variable (cs s)

theorem hasWildcard_trim (h : hasWildcard s = false) : hasWildcard (trim s) = false := by
  have hfront : trimChars s.toList <+: s.toList.dropWhile isBlank := List.rdropWhile_prefix ..
  have hsublist : (trimChars s.toList).Sublist s.toList :=
    hfront.sublist.trans (List.dropWhile_sublist _)
  rw [hasWildcard, List.any_eq_false] at h ⊢
  rw [trim, String.toList_ofList]
  exact fun c hc => h c (hsublist.subset hc)

end Blanks

section Texts

variable {t body root : String}

theorem body?_eq_some_iff :
    Expression.body? t = some body ↔ t = "/" ++ body ++ "/" ∧ body ≠ "" := by
  have hslash : "/".toList = ['/'] := rfl
  constructor
  · intro h
    simp only [Expression.body?] at h
    split at h
    · next rest hrest =>
      obtain ⟨⟨hlast, hne⟩, hbody⟩ := Option.ite_none_right_eq_some.mp h
      obtain rfl := Option.some.inj hbody
      refine ⟨String.toList_inj.mp ?_, fun hempty => hne (String.ofList_eq_empty_iff.mp hempty)⟩
      rw [hrest, String.toList_append, String.toList_append, hslash, String.toList_ofList,
        List.singleton_append, List.cons_append, List.dropLast_append_getLast? '/' hlast]
    · exact absurd h (by simp)
  · rintro ⟨rfl, hne⟩
    have htext : ("/" ++ body ++ "/").toList = '/' :: (body.toList ++ ['/']) := by
      rw [String.toList_append, String.toList_append, hslash, List.singleton_append,
        List.cons_append]
    have hbody : body.toList ≠ [] := fun hempty => hne (String.toList_eq_nil_iff.mp hempty)
    simp only [Expression.body?, htext]
    rw [if_pos ⟨List.getLast?_concat, by rwa [List.dropLast_concat]⟩, List.dropLast_concat,
      String.ofList_toList]

theorem startsWithSlash_of_body (h : t = "/" ++ body ++ "/") : StartsWithSlash t := by
  rw [h, StartsWithSlash, String.toList_append, String.toList_append]
  rfl

theorem rootText?_eq_some_iff : Tree.rootText? t = some root ↔ t = root ++ ".*" := by
  have hend : ".*".toList = ['.', '*'] := rfl
  have hlength : ∀ before : List Char, t.toList = before ++ ['.', '*'] →
      t.toList.take (t.length - 2) = before := by
    intro before hbefore
    rw [← String.length_toList, hbefore, List.length_append]
    exact List.take_left
  rw [Tree.rootText?, ← String.toList_inj, String.toList_append, hend]
  constructor
  · intro h
    obtain ⟨hsuffix, hroot⟩ := Option.ite_none_right_eq_some.mp h
    obtain ⟨before, hbefore⟩ := List.isSuffixOf_iff_suffix.mp hsuffix
    obtain rfl := Option.some.inj hroot
    rw [String.toList_ofList, hlength before hbefore.symm, hbefore]
  · intro h
    rw [if_pos (List.isSuffixOf_iff_suffix.mpr ⟨root.toList, h.symm⟩), hlength root.toList h,
      String.ofList_toList]

theorem parse_eq_of_readsName {name : Except PatternError Domain}
    (hplain : hasWildcard (trim t) = false) (h : ReadsName (trim t) name) :
    Domain.parse t = name := by
  simp only [Domain.parse]
  cases h with
  | global h => rw [if_pos h]
  | name hglobal hparts =>
      have hnone : "" ∉ pieces '.' (trim t) := fun hmem => hparts "" hmem rfl
      rw [if_neg hglobal, if_neg (by simp [hplain]), if_neg (by simpa using hnone)]
  | empty hglobal hpart =>
      rw [if_neg hglobal, if_neg (by simp [hplain]), if_pos (by simpa using hpart)]

theorem exists_readsName (name : String) : ∃ r, ReadsName name r := by
  by_cases hglobal : name ∈ Domain.globalSpellings
  · exact ⟨_, .global hglobal⟩
  · by_cases hpart : "" ∈ pieces '.' name
    · exact ⟨_, .empty hglobal hpart⟩
    · exact ⟨_, .name hglobal fun part hmem hempty => hpart (hempty ▸ hmem)⟩

end Texts

section Components

variable {pattern : String}

theorem ne_wildcard_of_plain {part : String} (h : hasWildcard part = false) :
    part ≠ "?" ∧ part ≠ "*" := by
  constructor
  · rintro rfl
    exact absurd h (by decide)
  · rintro rfl
    exact absurd h (by decide)

theorem componentOf_of_plain {part : String} (h : hasWildcard part = false) :
    componentOf part = .literal part := by
  obtain ⟨hone, hmany⟩ := ne_wildcard_of_plain h
  rw [componentOf, if_neg hone, if_neg hmany]

theorem isLiteral_componentOf {part : String} (h : IsComponent part)
    (hwild : hasWildcard part = true) : (componentOf part).isLiteral = false := by
  rcases h.2 with rfl | rfl | hplain
  · rfl
  · rfl
  · exact absurd (hwild.symm.trans hplain) Bool.noConfusion

/-- A component that may follow is read as what it stands for. -/
theorem readComponents_cons {part : String} (h : IsComponent part) {afterMany : Bool}
    (hapart : ¬ (afterMany = true ∧ part = "*")) (rest : List String) :
    readComponents pattern afterMany (part :: rest) =
      (readComponents pattern (part == "*") rest).map (componentOf part :: ·) := by
  rw [readComponents, if_neg h.1]
  rcases h.2 with rfl | rfl | hplain
  · rfl
  · rw [if_neg (by decide), if_pos rfl, if_neg fun hmany => hapart ⟨hmany, rfl⟩]
    rfl
  · obtain ⟨hone, hmany⟩ := ne_wildcard_of_plain hplain
    rw [if_neg hone, if_neg hmany, if_neg (by simp [hplain]), componentOf_of_plain hplain,
      beq_eq_false_iff_ne.mpr hmany]

theorem readComponents_offends {previous : Option String} {part : String} {e : PatternError}
    (h : Offends pattern previous part e) (rest : List String) :
    readComponents pattern (previous == some "*") (part :: rest) = .error e := by
  rw [readComponents]
  cases h with
  | empty => rfl
  | adjacent => rfl
  | mixed previous hone hmany hwild =>
      have hempty : part ≠ "" := by
        rintro rfl
        exact absurd hwild (by decide)
      rw [if_neg hempty, if_neg hone, if_neg hmany, if_pos hwild]

theorem wellFormed_concat {before : List String} {part : String} :
    WellFormed (before ++ [part]) ↔
      WellFormed before ∧ IsComponent part ∧ ¬ (before.getLast? = some "*" ∧ part = "*") := by
  constructor
  · rintro ⟨hcomponent, hapart⟩
    obtain ⟨hbefore, -, hlast⟩ := List.isChain_append.mp hapart
    refine ⟨⟨fun part hpart => hcomponent part (List.mem_append_left _ hpart), hbefore⟩,
      hcomponent part (by simp), ?_⟩
    rintro ⟨hmany, rfl⟩
    exact hlast "*" hmany "*" rfl ⟨rfl, rfl⟩
  · rintro ⟨⟨hcomponent, hbefore⟩, hpart, hlast⟩
    refine ⟨?_, List.isChain_append.mpr ⟨hbefore, .singleton part, ?_⟩⟩
    · rw [List.forall_mem_append]
      exact ⟨hcomponent, by simpa using hpart⟩
    · rintro x hx y hy ⟨rfl, rfl⟩
      exact hlast ⟨hx, (Option.mem_some_iff.mp hy)⟩

/-- Components that are well formed are read before the others are looked at. -/
theorem readComponents_append {before : List String} (h : WellFormed before)
    (rest : List String) :
    readComponents pattern false (before ++ rest) =
      (readComponents pattern (before.getLast? == some "*") rest).map
        (before.map componentOf ++ ·) := by
  induction before using List.reverseRecOn generalizing rest with
  | nil => exact (congrFun Except.map_id (readComponents pattern false rest)).symm
  | append_singleton before part ih =>
      obtain ⟨hbefore, hpart, hapart⟩ := wellFormed_concat.mp h
      have hnext : ¬ ((before.getLast? == some "*") = true ∧ part = "*") := by
        simpa using hapart
      rw [List.append_assoc, List.singleton_append, ih hbefore, readComponents_cons hpart hnext,
        List.getLast?_concat]
      cases hrest : readComponents pattern (part == "*") rest with
      | error e => simp [Except.map, hrest]
      | ok components => simp [Except.map, hrest]

theorem readComponents_wellFormed {parts : List String} (h : WellFormed parts) :
    readComponents pattern false parts = .ok (parts.map componentOf) := by
  have hread := @readComponents_append pattern parts h []
  rw [List.append_nil] at hread
  exact hread.trans (congrArg Except.ok (List.append_nil _))

theorem readComponents_firstOffence {parts : List String} {e : PatternError}
    (h : FirstOffence pattern parts e) : readComponents pattern false parts = .error e := by
  obtain ⟨before, part, after, rfl, hbefore, hoffends⟩ := h
  rw [readComponents_append hbefore, readComponents_offends hoffends]
  rfl

theorem exists_offence {before : List String} {part : String}
    (h : ¬ (IsComponent part ∧ ¬ (before.getLast? = some "*" ∧ part = "*"))) :
    ∃ e, Offends pattern before.getLast? part e := by
  by_cases hempty : part = ""
  · subst hempty
    exact ⟨_, .empty _⟩
  · by_cases hmany : part = "*"
    · subst hmany
      have hlast : before.getLast? = some "*" := by
        by_contra hlast
        exact h ⟨⟨hempty, .inr (.inl rfl)⟩, fun hboth => hlast hboth.1⟩
      rw [hlast]
      exact ⟨_, .adjacent⟩
    · have hcomponent : ¬ IsComponent part := fun hpart => h ⟨hpart, fun hboth => hmany hboth.2⟩
      have hmixed : ¬ (part = "?" ∨ part = "*" ∨ hasWildcard part = false) :=
        fun hpart => hcomponent ⟨hempty, hpart⟩
      obtain ⟨hone, -, hwild⟩ := not_or.mp hmixed |>.imp_right not_or.mp
      exact ⟨_, .mixed _ hone hmany (Bool.not_eq_false _ ▸ hwild)⟩

theorem wellFormed_or_firstOffence (pattern : String) (parts : List String) :
    WellFormed parts ∨ ∃ e, FirstOffence pattern parts e := by
  induction parts using List.reverseRecOn with
  | nil => exact .inl ⟨by simp, .nil⟩
  | append_singleton before part ih =>
      rcases ih with hbefore | ⟨e, first, offending, after, rfl, hfirst, hoffends⟩
      · by_cases hpart : IsComponent part ∧ ¬ (before.getLast? = some "*" ∧ part = "*")
        · exact .inl (wellFormed_concat.mpr ⟨hbefore, hpart⟩)
        · obtain ⟨e, he⟩ := exists_offence hpart
          exact .inr ⟨e, before, part, [], rfl, hbefore, he⟩
      · exact .inr ⟨e, first, offending, after ++ [part], by simp, hfirst, hoffends⟩

end Components

section Parse

variable {t : String} (ht : trim t = t)

include ht

theorem expressionParse_of_compiled {body : String} {meaning : Regex.CharExpr}
    (hbody : Expression.body? t = some body)
    (hcompiled : Regex.compile? (anchored body.toList) = some meaning) :
    Expression.parse t = .ok ⟨body, meaning, hcompiled⟩ := by
  have hfound : Expression.ofBody? body = some ⟨body, meaning, hcompiled⟩ := by
    rw [Expression.ofBody?]
    split
    · next other hother =>
      obtain rfl : other = meaning := Option.some.inj (hother.symm.trans hcompiled)
      rfl
    · next hnone => exact absurd (hnone.symm.trans hcompiled) (by simp)
  simp only [Expression.parse, ht, hbody, hfound]

theorem expressionParse_of_not_compiled {body : String} (hbody : Expression.body? t = some body)
    (hcompiled : Regex.compile? (anchored body.toList) = none) :
    Expression.parse t = .error (.invalidRegex t) := by
  have hnone : Expression.ofBody? body = none := by
    rw [Expression.ofBody?]
    split
    · next hsome => exact absurd (hcompiled.symm.trans hsome) (by simp)
    · rfl
  simp only [Expression.parse, ht, hbody, hnone]

theorem expressionParse_of_malformed (hbody : ¬ ∃ body, t = "/" ++ body ++ "/" ∧ body ≠ "") :
    Expression.parse t = .error (.malformedRegex t) := by
  have hnone : Expression.body? t = none := by
    rw [Option.eq_none_iff_forall_ne_some]
    intro body hsome
    exact hbody ⟨body, body?_eq_some_iff.mp hsome⟩
  simp only [Expression.parse, ht, hnone]

/-- A wildcard of a text stands in one of its components, as no wildcard is a dot. -/
theorem wildcardParse_of_wellFormed (hwild : hasWildcard t = true)
    (hparts : WellFormed (pieces '.' t)) :
    Wildcard.parse t = .ok ⟨(pieces '.' t).map componentOf⟩ := by
  have hnotAll : ((pieces '.' t).map componentOf).all WildcardComponent.isLiteral = false := by
    obtain ⟨c, hc, hwildcard⟩ := List.any_eq_true.mp hwild
    have hdot : c ≠ '.' := by
      rintro rfl
      exact absurd hwildcard (by decide)
    obtain ⟨piece, hpiece, hmem⟩ := exists_mem_split hc hdot
    have hpart : String.ofList piece ∈ pieces '.' t := List.mem_map_of_mem hpiece
    have hstands : hasWildcard (String.ofList piece) = true := by
      rw [hasWildcard, String.toList_ofList]
      exact List.any_eq_true.mpr ⟨c, hmem, hwildcard⟩
    have hliteral := isLiteral_componentOf (hparts.component _ hpart) hstands
    exact List.all_eq_false.mpr
      ⟨_, List.mem_map_of_mem hpart, fun hall => Bool.false_ne_true (hliteral.symm.trans hall)⟩
  simp only [Wildcard.parse, ht, readComponents_wellFormed hparts, bind, Except.bind, hnotAll]
  rfl

theorem wildcardParse_of_firstOffence {e : PatternError} (h : FirstOffence t (pieces '.' t) e) :
    Wildcard.parse t = .error e := by
  simp only [Wildcard.parse, ht, readComponents_firstOffence h, bind, Except.bind]

theorem treeParse_of_root {root : String} (hroot : t = root ++ ".*")
    (hplain : hasWildcard root = false) {name : Except PatternError Domain}
    (hname : ReadsName (trim root) name) : Tree.parse t = name.map Tree.mk := by
  have hstar : t ≠ "*" := by
    rintro rfl
    have hlength := congrArg (·.toList.length) hroot
    simp at hlength
  have hfound : Tree.rootText? t = some root := rootText?_eq_some_iff.mpr hroot
  simp only [Tree.parse, ht, hstar, hfound, hplain, if_false, Bool.false_eq_true,
    parse_eq_of_readsName (hasWildcard_trim root hplain) hname]

theorem treeParse_of_no_root (hstar : t ≠ "*")
    (h : ¬ ∃ root, t = root ++ ".*" ∧ hasWildcard root = false) :
    Tree.parse t = .error (.invalidTree t) := by
  simp only [Tree.parse, ht, hstar, if_false]
  split
  · next root hroot =>
    have hwild : hasWildcard root = true := by
      by_contra hplain
      exact h ⟨root, rootText?_eq_some_iff.mp hroot, Bool.not_eq_true _ ▸ hplain⟩
    rw [if_pos hwild]
  · rfl

end Parse

theorem hasWildcard_append_star (root : String) : hasWildcard (root ++ ".*") = true := by
  rw [hasWildcard, String.toList_append, List.any_append]
  exact (congrArg _ (by decide)).trans (Bool.or_true _)

section Dispatch

variable {text : String}

theorem parse_of_slash (kind : PatternSyntax) (h : StartsWithSlash (trim text)) :
    Pattern.parse kind text = (Expression.parse (trim text)).map .expression :=
  if_pos h

theorem parse_of_plain (kind : PatternSyntax) (h : ¬ StartsWithSlash (trim text))
    (hplain : hasWildcard (trim text) = false) :
    Pattern.parse kind text = (Domain.parse (trim text)).map .exact :=
  (if_neg h).trans (if_pos (by rw [hplain]; rfl))

theorem parse_wildcard (h : ¬ StartsWithSlash (trim text))
    (hwild : hasWildcard (trim text) = true) :
    Pattern.parse .wildcard text = (Wildcard.parse (trim text)).map .wildcard :=
  (if_neg h).trans (if_neg (by simp [hwild]))

theorem parse_tree (h : ¬ StartsWithSlash (trim text)) (hwild : hasWildcard (trim text) = true) :
    Pattern.parse .tree text = (Tree.parse (trim text)).map .tree :=
  (if_neg h).trans (if_neg (by simp [hwild]))

end Dispatch

/-- Whatever the grammar says of a text is how it is parsed. -/
theorem parse_eq_of_reads {text : String} {kind : PatternSyntax} {r : Except PatternError Pattern}
    (h : Reads (trim text) kind r) : Pattern.parse kind text = r := by
  have htrim : trim (trim text) = trim text := trim_trim text
  cases h with
  | expression kind ht hbody hcompiled =>
      have hfound := body?_eq_some_iff.mpr ⟨ht, hbody⟩
      rw [parse_of_slash kind (startsWithSlash_of_body ht),
        expressionParse_of_compiled htrim hfound hcompiled]
      rfl
  | malformedExpression kind hslash ht =>
      rw [parse_of_slash kind hslash, expressionParse_of_malformed htrim ht]
      rfl
  | invalidExpression kind ht hbody hcompiled =>
      have hfound := body?_eq_some_iff.mpr ⟨ht, hbody⟩
      rw [parse_of_slash kind (startsWithSlash_of_body ht),
        expressionParse_of_not_compiled htrim hfound hcompiled]
      rfl
  | exact kind hslash hplain hname =>
      rw [parse_of_plain kind hslash hplain, parse_eq_of_readsName (htrim.symm ▸ hplain)]
      rwa [htrim]
  | wildcard hslash hwild hparts =>
      rw [parse_wildcard hslash hwild, wildcardParse_of_wellFormed htrim hwild hparts]
      rfl
  | wildcardOffence hslash hwild he =>
      rw [parse_wildcard hslash hwild, wildcardParse_of_firstOffence htrim he]
      rfl
  | globalTree ht =>
      have hslash : ¬ StartsWithSlash (trim text) := by
        rw [ht, StartsWithSlash]
        decide
      rw [parse_tree hslash (by rw [ht]; rfl), ht]
      rfl
  | @tree hslash root ht hroot name hname =>
      have hwild : hasWildcard (trim text) = true := ht ▸ hasWildcard_append_star root
      rw [parse_tree hslash hwild, treeParse_of_root htrim ht hroot hname]
      cases name <;> rfl
  | invalidTree hslash hwild hstar ht =>
      rw [parse_tree hslash hwild, treeParse_of_no_root htrim hstar ht]
      rfl

/-- The grammar leaves no text out. -/
theorem exists_reads (t : String) (kind : PatternSyntax) : ∃ r, Reads t kind r := by
  by_cases hslash : StartsWithSlash t
  · by_cases hbody : ∃ body, t = "/" ++ body ++ "/" ∧ body ≠ ""
    · obtain ⟨body, ht, hne⟩ := hbody
      cases hcompiled : Regex.compile? (anchored body.toList) with
      | none => exact ⟨_, .invalidExpression kind ht hne hcompiled⟩
      | some meaning => exact ⟨_, .expression kind ht hne hcompiled⟩
    · exact ⟨_, .malformedExpression kind hslash hbody⟩
  · cases hwild : hasWildcard t with
    | false =>
        obtain ⟨name, hname⟩ := exists_readsName t
        exact ⟨_, .exact kind hslash hwild hname⟩
    | true =>
        cases kind with
        | wildcard =>
            rcases wellFormed_or_firstOffence t (pieces '.' t) with hparts | ⟨e, he⟩
            · exact ⟨_, .wildcard hslash hwild hparts⟩
            · exact ⟨_, .wildcardOffence hslash hwild he⟩
        | tree =>
            by_cases hstar : t = "*"
            · exact ⟨_, .globalTree hstar⟩
            by_cases hroot : ∃ root, t = root ++ ".*" ∧ hasWildcard root = false
            · obtain ⟨root, ht, hplain⟩ := hroot
              obtain ⟨name, hname⟩ := exists_readsName (trim root)
              exact ⟨_, .tree hslash ht hplain hname⟩
            · exact ⟨_, .invalidTree hslash hwild hstar hroot⟩

/-- The errors that the grammar has a place for. -/
theorem Reads.error_ne {t : String} {kind : PatternSyntax} {r : Except PatternError Pattern}
    (h : Reads t kind r) (pattern : String) :
    r ≠ .error (.wildcardInDomain pattern) ∧ r ≠ .error (.missingWildcard pattern) := by
  cases h with
  | expression | malformedExpression | invalidExpression | wildcard | globalTree | invalidTree =>
      simp
  | exact kind hslash hplain hname => cases hname <;> simp [Except.map]
  | tree hslash ht hroot hname => cases hname <;> simp [Except.map]
  | wildcardOffence hslash hwild he =>
      obtain ⟨before, part, after, -, -, hoffends⟩ := he
      generalize before.getLast? = previous at hoffends
      cases hoffends <;> simp

/-- Every text is read as the grammar says, in either way of reading wildcards, and two errors are
never made: a plain name with a wildcard, and a wildcard pattern without one. -/
theorem parse_eq_iff_reads (kind : PatternSyntax) (text : String) :
    (∀ r, Pattern.parse kind text = r ↔ Reads (trim text) kind r) ∧
      ∀ pattern, Pattern.parse kind text ≠ .error (.wildcardInDomain pattern) ∧
        Pattern.parse kind text ≠ .error (.missingWildcard pattern) := by
  have hiff : ∀ r, Pattern.parse kind text = r ↔ Reads (trim text) kind r := by
    intro r
    constructor
    · rintro rfl
      obtain ⟨r, hr⟩ := exists_reads (trim text) kind
      exact parse_eq_of_reads hr ▸ hr
    · exact parse_eq_of_reads
  exact ⟨hiff, fun pattern => ((hiff _).mp rfl).error_ne pattern⟩

end NamespacePolicy.Proofs.PatternGrammar
