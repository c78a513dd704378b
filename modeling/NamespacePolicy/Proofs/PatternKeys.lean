import NamespacePolicy.Proofs.PatternGrammar
import NamespacePolicy.Proofs.Ranking
import NamespacePolicy.Rule

/-!
Patterns known by their texts.  The text of a pattern is read again as that pattern, also where it
is not the text that was read first: a global domain has many spellings, and a tree is written from
its root.  Patterns of one kind with the same text are therefore the same, and rules that are told
apart by these texts alone never differ in what they decide.
-/

namespace NamespacePolicy.Proofs.PatternKeys

open PatternGrammar Ranking Separation Text

/-- A domain that a policy can name, under the text that it has afterwards. -/
structure Accepted (d : Domain) : Prop where
  trimmed : trim d.text = d.text
  plain : hasWildcard d.text = false
  reads : ReadsName d.text (.ok d)

theorem accepted_global : Accepted .global :=
  ⟨by decide +kernel, rfl, .global (by decide)⟩

section Names

variable {t text : String} {d : Domain}

theorem eq_global_or_text_of_readsName (h : ReadsName t (.ok d)) : d = .global ∨ d.text = t := by
  generalize hr : Except.ok d = r at h
  cases h with
  | global => exact .inl (Except.ok.inj hr)
  | name => exact .inr (congrArg Domain.text (Except.ok.inj hr))
  | empty => simp at hr

theorem accepted_of_readsName (ht : trim t = t) (hplain : hasWildcard t = false)
    (h : ReadsName t (.ok d)) : Accepted d := by
  rcases eq_global_or_text_of_readsName h with rfl | rfl
  · exact accepted_global
  · exact ⟨ht, hplain, h⟩

theorem accepted_of_parse (h : Domain.parse text = .ok d) : Accepted d := by
  simp only [Domain.parse] at h
  split_ifs at h with hglobal hwild hpart
  · obtain rfl := Except.ok.inj h
    exact accepted_global
  · obtain rfl := Except.ok.inj h
    refine ⟨trim_trim text, Bool.not_eq_true _ ▸ hwild, .name hglobal ?_⟩
    rintro part hmem rfl
    exact hpart (List.any_eq_true.mpr ⟨"", hmem, rfl⟩)

theorem Accepted.text_ne_empty (h : Accepted d) : d.text ≠ "" := by
  have hreads := h.reads
  generalize hr : Except.ok d = r at hreads
  cases hreads with
  | global =>
      obtain rfl := Except.ok.inj hr
      decide
  | name hspelling =>
      intro hempty
      exact hspelling (hempty ▸ by decide)
  | empty => simp at hr

theorem Accepted.parts (h : Accepted d) :
    ∀ part ∈ d.components, part ≠ "" ∧ hasWildcard part = false := by
  intro part hpart
  rw [Domain.components] at hpart
  split_ifs at hpart with hglobal
  · exact absurd hpart List.not_mem_nil
  · have hreads := h.reads
    generalize hr : Except.ok d = r at hreads
    cases hreads with
    | global =>
        obtain rfl := Except.ok.inj hr
        exact absurd rfl hglobal
    | name hspelling hparts =>
        refine ⟨hparts part hpart, ?_⟩
        have hplain := h.plain
        rw [hasWildcard, List.any_eq_false] at hplain ⊢
        intro c hc
        exact hplain c (mem_of_mem_pieces hpart hc)
    | empty => simp at hr

end Names

section Trees

variable {d : Domain}

theorem treeText_global (h : d.isGlobal = true) : (Tree.mk d).text = "*" :=
  if_pos h

theorem treeText_of_not_global (h : d.isGlobal = false) : (Tree.mk d).text = d.text ++ ".*" :=
  if_neg (by simp [h])

theorem eq_global_of_isGlobal (h : d.isGlobal = true) : d = .global := by
  obtain ⟨text⟩ := d
  exact congrArg Domain.mk (beq_iff_eq.mp h)

theorem trim_treeText (h : Accepted d) : trim (Tree.mk d).text = (Tree.mk d).text := by
  cases hglobal : d.isGlobal with
  | true =>
      rw [treeText_global hglobal]
      decide +kernel
  | false =>
      rw [treeText_of_not_global hglobal]
      exact trim_append_star h.trimmed h.text_ne_empty

/-- Blanks in front of the dot do not turn a tree into an expression. -/
theorem not_startsWithSlash_trim_root {root : String} (ht : trim (root ++ ".*") = root ++ ".*")
    (h : ¬ StartsWithSlash (root ++ ".*")) : ¬ StartsWithSlash (trim root ++ ".*") := by
  have hstar : ".*".toList = ['.', '*'] := rfl
  intro hslash
  rw [StartsWithSlash, String.toList_append, trim, String.toList_ofList] at hslash
  have hfront : trimChars root.toList <+: root.toList.dropWhile isBlank :=
    List.rdropWhile_prefix ..
  cases htrimmed : trimChars root.toList with
  | nil =>
      rw [htrimmed, hstar] at hslash
      exact absurd hslash (by decide)
  | cons c rest =>
      rw [htrimmed, List.cons_append, List.head?_cons, Option.some.injEq] at hslash
      obtain ⟨more, hmore⟩ := hfront
      rw [htrimmed, hslash, List.cons_append] at hmore
      have hall := dropWhile_of_trimmed (trimChars_of_trim ht)
      rw [String.toList_append, List.dropWhile_append, ← hmore, List.isEmpty_cons,
        if_neg Bool.false_ne_true] at hall
      apply h
      rw [StartsWithSlash, String.toList_append, ← hall]
      rfl

theorem reads_treeText (h : Accepted d)
    (hslash : d.isGlobal = false → ¬ StartsWithSlash (Tree.mk d).text) :
    Reads (Tree.mk d).text .tree (.ok (.tree ⟨d⟩)) := by
  cases hglobal : d.isGlobal with
  | true =>
      obtain rfl := eq_global_of_isGlobal hglobal
      exact .globalTree rfl
  | false =>
      have htext := treeText_of_not_global hglobal
      exact .tree (hslash hglobal) htext h.plain (h.trimmed.symm ▸ h.reads)

end Trees

/-- How two patterns compare: they are of one kind, and their texts are equal. -/
inductive Alike : Pattern → Pattern → Prop
  | exact {d e : Domain} (h : d.text = e.text) : Alike (.exact d) (.exact e)
  | wildcard {w v : Wildcard} (h : w.text = v.text) : Alike (.wildcard w) (.wildcard v)
  | expression {e f : Expression} (h : e.text = f.text) : Alike (.expression e) (.expression f)
  | tree {t u : Tree} (h : t.text = u.text) : Alike (.tree t) (.tree u)

/-- The pattern was read from a text, in either way of reading wildcards. -/
def WasRead (p : Pattern) : Prop := ∃ kind text, Pattern.parse kind text = .ok p

def RuleWasRead (r : Rule) : Prop := WasRead r.source ∧ WasRead r.target

def AlikeRules (r s : Rule) : Prop := Alike r.source s.source ∧ Alike r.target s.target

section Patterns

variable {kind : PatternSyntax} {text : String} {p q : Pattern}

theorem reads_of_parse (h : Pattern.parse kind text = .ok p) : Reads (trim text) kind (.ok p) := by
  obtain ⟨r, hr⟩ := exists_reads (trim text) kind
  rwa [← h, parse_eq_of_reads hr]

theorem parse_of_reads {t : String} (ht : trim t = t) (h : Reads t kind (.ok p)) :
    Pattern.parse kind t = .ok p :=
  parse_eq_of_reads (ht.symm ▸ h)

theorem not_startsWithSlash_dot : ¬ StartsWithSlash "." := by
  rw [StartsWithSlash]
  decide

theorem text_componentOf (part : String) : (componentOf part).text = part := by
  rw [componentOf]
  split_ifs with hone hmany
  · exact hone.symm
  · exact hmany.symm
  · rfl

theorem wildcardText_pieces (t : String) :
    (Wildcard.mk ((pieces '.' t).map componentOf)).text = t := by
  have hdot : ".".toList = ['.'] := rfl
  have hparts : ((pieces '.' t).map componentOf).map WildcardComponent.text = pieces '.' t := by
    rw [List.map_map]
    exact List.map_id'' text_componentOf _
  rw [Wildcard.text, hparts, joined_pieces hdot]

/-- A pattern that was read is what its own text means. -/
theorem reads_text {t : String} {r : Except PatternError Pattern} (ht : trim t = t)
    (h : Reads t kind r) (hr : r = .ok p) : trim p.text = p.text ∧ Reads p.text kind (.ok p) := by
  cases h with
  | malformedExpression | invalidExpression | wildcardOffence | invalidTree => simp at hr
  | expression kind hbody hne hcompiled =>
      obtain rfl := Except.ok.inj hr
      obtain rfl := hbody
      exact ⟨ht, .expression kind rfl hne hcompiled⟩
  | @exact kind hslash hplain name hname =>
      obtain ⟨d, rfl, rfl⟩ := exists_of_map_eq_ok hr
      have haccepted := accepted_of_readsName ht hplain hname
      refine ⟨haccepted.trimmed, .exact kind ?_ haccepted.plain haccepted.reads⟩
      rcases eq_global_or_text_of_readsName hname with rfl | rfl
      · exact not_startsWithSlash_dot
      · exact hslash
  | wildcard hslash hwild hparts =>
      obtain rfl := Except.ok.inj hr
      have htext : (Pattern.wildcard ⟨(pieces '.' t).map componentOf⟩).text = t :=
        wildcardText_pieces t
      rw [htext]
      exact ⟨ht, .wildcard hslash hwild hparts⟩
  | globalTree =>
      obtain rfl := Except.ok.inj hr
      exact ⟨trim_treeText accepted_global, .globalTree rfl⟩
  | @tree hslash root hroot hplain name hname =>
      obtain ⟨d, rfl, rfl⟩ := exists_of_map_eq_ok hr
      have haccepted := accepted_of_readsName (trim_trim root) (hasWildcard_trim root hplain) hname
      refine ⟨trim_treeText haccepted, reads_treeText haccepted ?_⟩
      intro hglobal
      rw [treeText_of_not_global hglobal]
      rcases eq_global_or_text_of_readsName hname with rfl | hd
      · exact absurd hglobal (by decide)
      · subst hroot
        rw [hd]
        exact not_startsWithSlash_trim_root ht hslash

/-- Only names of the global domain and trees are written in another way than they were read. -/
theorem text_of_reads {t : String} {r : Except PatternError Pattern} (h : Reads t kind r)
    (hr : r = .ok p) : p.text = t ∨ p = .exact .global ∨ ∃ root, p = .tree root := by
  cases h with
  | malformedExpression | invalidExpression | wildcardOffence | invalidTree => simp at hr
  | expression kind hbody =>
      obtain rfl := Except.ok.inj hr
      exact .inl hbody.symm
  | @exact kind hslash hplain name hname =>
      obtain ⟨d, rfl, rfl⟩ := exists_of_map_eq_ok hr
      rcases eq_global_or_text_of_readsName hname with rfl | hd
      · exact .inr (.inl rfl)
      · exact .inl hd
  | wildcard =>
      obtain rfl := Except.ok.inj hr
      exact .inl (wildcardText_pieces t)
  | globalTree =>
      obtain rfl := Except.ok.inj hr
      exact .inr (.inr ⟨_, rfl⟩)
  | @tree hslash root hroot hplain name hname =>
      obtain ⟨d, rfl, rfl⟩ := exists_of_map_eq_ok hr
      exact .inr (.inr ⟨_, rfl⟩)

/-- What is read from the text of a pattern is that pattern, in the same way of reading. -/
theorem parse_text (h : Pattern.parse kind text = .ok p) : Pattern.parse kind p.text = .ok p := by
  obtain ⟨htrim, hreads⟩ := reads_text (trim_trim text) (reads_of_parse h) rfl
  exact parse_of_reads htrim hreads

/-- In one way of reading the text alone tells patterns apart. -/
theorem eq_of_text_eq {text' : String} (hp : Pattern.parse kind text = .ok p)
    (hq : Pattern.parse kind text' = .ok q) (h : p.text = q.text) : p = q := by
  have hread := parse_text hp
  rw [h, parse_text hq] at hread
  exact (Except.ok.inj hread).symm

theorem kind_of_reads {t : String} {r : Except PatternError Pattern} (h : Reads t kind r) :
    (∀ w, r = .ok (.wildcard w) → kind = .wildcard) ∧ ∀ u, r = .ok (.tree u) → kind = .tree := by
  cases h with
  | exact kind hslash hplain hname => cases hname <;> simp [Except.map]
  | tree hslash ht hroot hname => cases hname <;> simp [Except.map]
  | _ => simp

theorem eq_of_alike (hp : WasRead p) (hq : WasRead q) (h : Alike p q) : p = q := by
  obtain ⟨kind, text, hp⟩ := hp
  obtain ⟨kind', text', hq⟩ := hq
  cases h with
  | @exact d e htext =>
      obtain ⟨d⟩ := d
      exact congrArg (Pattern.exact ∘ Domain.mk) htext
  | expression htext =>
      rw [Expression.text, Expression.text, String.append_left_inj, String.append_right_inj]
        at htext
      exact congrArg Pattern.expression (Expression.eq_of_body_eq htext)
  | wildcard htext =>
      -- Only one way of reading has patterns of this kind, so both texts are read in that way.
      obtain rfl := (kind_of_reads (reads_of_parse hp)).1 _ rfl
      obtain rfl := (kind_of_reads (reads_of_parse hq)).1 _ rfl
      exact eq_of_text_eq hp hq htext
  | tree htext =>
      obtain rfl := (kind_of_reads (reads_of_parse hp)).2 _ rfl
      obtain rfl := (kind_of_reads (reads_of_parse hq)).2 _ rfl
      exact eq_of_text_eq hp hq htext

theorem alike_refl (p : Pattern) : Alike p p := by
  cases p with
  | exact d => exact .exact rfl
  | wildcard w => exact .wildcard rfl
  | expression e => exact .expression rfl
  | tree t => exact .tree rfl

theorem alike_iff_eq (hp : WasRead p) (hq : WasRead q) : Alike p q ↔ p = q := by
  constructor
  · exact eq_of_alike hp hq
  · rintro rfl
    exact alike_refl p

end Patterns

theorem alikeRules_iff_eq {r s : Rule} (hr : RuleWasRead r) (hs : RuleWasRead s) :
    AlikeRules r s ↔ r = s := by
  obtain ⟨source, target⟩ := r
  obtain ⟨source', target'⟩ := s
  rw [AlikeRules, alike_iff_eq hr.1 hs.1, alike_iff_eq hr.2 hs.2, Rule.mk.injEq]

/-- A pattern is read again from its text, which is the one it was read from but for blanks, trees
and the global domain.  Patterns that were read and compare alike by kind and text score alike
everywhere, and rules that do decide alike everywhere; so the same rules are found in a list
whether texts are compared or all that the texts mean. -/
theorem text_is_faithful_key :
    (∀ kind text p, Pattern.parse kind text = .ok p →
        Pattern.parse kind p.text = .ok p ∧
          (p.text = trim text ∨ p = .exact .global ∨ ∃ root, p = .tree root)) ∧
      (∀ p q, WasRead p → WasRead q → Alike p q → p = q ∧ ∀ c, p.relevance c = q.relevance c) ∧
      (∀ r s, RuleWasRead r → RuleWasRead s → AlikeRules r s → ∀ source target,
        r.covers source target = s.covers source target ∧
          r.relevance source target = s.relevance source target) ∧
      ∀ (rules : List Rule) (r : Rule), (∀ s ∈ rules, RuleWasRead s) → RuleWasRead r →
        ((∃ s ∈ rules, AlikeRules s r) ↔ r ∈ rules) := by
  refine ⟨?_, ?_, ?_, ?_⟩
  · intro kind text p h
    exact ⟨parse_text h, text_of_reads (reads_of_parse h) rfl⟩
  · intro p q hp hq h
    obtain rfl := eq_of_alike hp hq h
    exact ⟨rfl, fun c => rfl⟩
  · intro r s hr hs h source target
    obtain rfl := (alikeRules_iff_eq hr hs).mp h
    exact ⟨rfl, rfl⟩
  · intro rules r hrules hr
    constructor
    · rintro ⟨s, hs, h⟩
      exact (alikeRules_iff_eq (hrules s hs) hr).mp h ▸ hs
    · intro hmem
      exact ⟨r, hmem, (alikeRules_iff_eq hr hr).mpr rfl⟩

/-- Two spellings of a tree and of the global domain.  A wildcard pattern with the text of the tree
is not alike. -/
theorem respelled_rule_is_found :
    let p : Pattern := .tree ⟨⟨"A"⟩⟩
    let q : Pattern := .wildcard ⟨[.literal "A", .anyMany]⟩
    let g : Pattern := .exact .global
    Pattern.parse .tree " A .*" = .ok p ∧ Pattern.parse .tree p.text = .ok p ∧
      Pattern.parse .wildcard "<global namespace>" = .ok g ∧
      Pattern.parse .wildcard p.text = .ok q ∧ q.text = p.text ∧ ¬ Alike p q ∧
      Alike p p ∧ p.relevance ⟨"A.B"⟩ = 2 ∧ AlikeRules ⟨p, g⟩ ⟨p, g⟩ ∧
      (Rule.mk p g).covers ⟨"A.B"⟩ .global = true ∧
      ((∃ s ∈ [⟨q, g⟩, ⟨p, g⟩], AlikeRules s ⟨p, g⟩) ↔ ⟨p, g⟩ ∈ [Rule.mk q g, Rule.mk p g]) := by
  intro p q g
  have hp : Pattern.parse .tree " A .*" = .ok p := by decide +kernel
  have hg : Pattern.parse .wildcard "<global namespace>" = .ok g := by decide +kernel
  have hq : Pattern.parse .wildcard "A.*" = .ok q := by decide +kernel
  obtain ⟨hagain, hpatterns, hrules, hlist⟩ := text_is_faithful_key
  have hreadp : WasRead p := ⟨.tree, _, hp⟩
  have hreadq : WasRead q := ⟨.wildcard, _, hq⟩
  have hreadg : WasRead g := ⟨.wildcard, _, hg⟩
  have hread : ∀ s ∈ [Rule.mk q g, Rule.mk p g], RuleWasRead s := by
    simp only [List.forall_mem_cons]
    exact ⟨⟨hreadq, hreadg⟩, ⟨hreadp, hreadg⟩, by simp⟩
  have hne : ¬ Alike p q := by
    intro h
    change Alike (.tree ⟨⟨"A"⟩⟩) (.wildcard ⟨[.literal "A", .anyMany]⟩) at h
    cases h
  have hsame : AlikeRules ⟨p, g⟩ ⟨p, g⟩ := ⟨.tree rfl, .exact rfl⟩
  have hscore := (hpatterns p p hreadp hreadp (.tree rfl)).2 ⟨"A.B"⟩
  have hcovers := (hrules _ _ ⟨hreadp, hreadg⟩ ⟨hreadp, hreadg⟩ hsame ⟨"A.B"⟩ .global).1
  exact ⟨hp, (hagain .tree _ p hp).1, hg, hq, rfl, hne, .tree rfl, hscore.trans (by decide +kernel),
    hsame, hcovers.trans (by decide +kernel), hlist _ _ hread ⟨hreadp, hreadg⟩⟩

end NamespacePolicy.Proofs.PatternKeys
