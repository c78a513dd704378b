import NamespacePolicy.Pattern.Expression
import NamespacePolicy.Proofs.PatternGrammar
import NamespacePolicy.Proofs.RegexGroups
import NamespacePolicy.Proofs.RegexSearch

/-!
An expression is put between anchors, `^(?:` and `)$`, before it is read.  Its body is read there as
it is read alone, unless it closes the group that it is put into; so what matches are the names that
the body means as a whole.
-/

namespace NamespacePolicy.Proofs.WholeNames

open Regex Reader PatternGrammar RegexReading RegexGroups RegexSearch

theorem ordered_repeated {e : CharExpr} {least : Nat} {most : Option Nat} (he : Ordered e)
    (h : InOrder least most) : Ordered (repeated e least most) := by
  have htimes : ∀ least most, InOrder least most →
      Ordered (if most = some 0 then Expr.empty
        else if least = 1 ∧ most = some 1 then e else .times e least most) := by
    intro least most hcounts
    split
    · trivial
    · split
      · exact he
      · exact ⟨he, hcounts⟩
  unfold repeated
  split
  next hcounts =>
  refine htimes _ _ ?_
  split at hcounts
  · obtain ⟨rfl, rfl⟩ := Prod.mk.inj hcounts
    intro bound hbound
    obtain rfl := Option.some.inj hbound
    cases most with
    | none => exact Nat.min_le_right _ _
    | some most =>
      have hle := h most rfl
      rw [Option.getD_some]
      omega
  · obtain ⟨rfl, rfl⟩ := Prod.mk.inj hcounts
    exact h

theorem ordered_of_meaning? {source : Source} {flags flags' : Flags} {e : CharExpr}
    (hsource : Counted source) (h : source.meaning? flags = some (e, flags')) : Ordered e := by
  have hone : ∀ (o : Option Unicode.CharClass) {flags flags' : Flags} {e : CharExpr},
      (o.bind fun cls => some (Expr.one cls, flags)) = some (e, flags') → Ordered e := by
    intro o flags flags' e ho
    obtain ⟨cls, -, hcls⟩ := Option.bind_eq_some_iff.mp ho
    obtain ⟨rfl, -⟩ := result_inj hcls
    trivial
  induction source generalizing flags flags' e with
  | empty | directive _ | look _ =>
      obtain ⟨rfl, -⟩ := result_inj h
      trivial
  | literal _ | dot | set _ => exact hone _ h
  | bracket _ _ =>
      obtain ⟨members, -, h⟩ := Option.bind_eq_some_iff.mp h
      exact hone _ h
  | group _ _ _ ih =>
      obtain ⟨⟨e', _⟩, hbody, h⟩ := Option.bind_eq_some_iff.mp h
      obtain ⟨rfl, -⟩ := result_inj h
      exact ih hsource hbody (e := e')
  | times _ _ _ ih =>
      obtain ⟨⟨e', _⟩, hbody, h⟩ := Option.bind_eq_some_iff.mp h
      obtain ⟨rfl, -⟩ := result_inj h
      exact ordered_repeated (ih hsource.1 hbody) hsource.2
  | append _ _ iha ihb | either _ _ iha ihb =>
      obtain ⟨⟨a, _⟩, ha, h⟩ := Option.bind_eq_some_iff.mp h
      obtain ⟨⟨b, _⟩, hb, h⟩ := Option.bind_eq_some_iff.mp h
      obtain ⟨rfl, -⟩ := result_inj h
      exact ⟨iha hsource.1 ha, ihb hsource.2 hb⟩

/-- Read alone, the text comes to a parenthesis that closes nothing in it. -/
def LeavesGroup (body : List Char) : Prop :=
  ∃ source cursor rest, readAlternatives (body.length + 1) [] [] { rest := body } =
    some (source, cursor) ∧ cursor.rest = ')' :: rest

/-- The expression between its anchors. -/
def wrapped (source : Source) : Source :=
  .append (.look .caret) (.append (.group false {} source) (.look .dollar))

/-- The anchor and the opening of the group are read, then the body, and the group is closed. -/
theorem read_anchored (n : Nat) (rest : List Char) :
    readAlternatives (n + 2) [] [] { rest := ['^', '(', '?', ':'] ++ rest } =
      (readAlternatives n [] [] >>= fun inner => peek >>= fun c =>
        if c ≠ some ')' then refuse
        else modify (fun s => { s with extended := false }) >>= fun _ => bump >>= fun _ =>
          readAlternatives n [] [.group false {} inner, .look .caret]) { rest } := by
  rfl

/-- The last anchor is read. -/
theorem read_dollar (n : Nat) (source : Source) (names : List (List Char)) :
    readAlternatives (n + 2) [] [.group false {} source, .look .caret] ⟨['$'], false, names⟩ =
      some (wrapped source, ⟨[], false, names⟩) := by
  rfl

theorem run_anchored {body : List Char} {source : Source}
    (h : Source.read? (anchored body) = some source) :
    ∃ inner t, readAlternatives (body.length + 5) [] [] { rest := body ++ closing } =
      some (inner, t) ∧ t.rest.head? = some ')' ∧ ∃ t',
        readAlternatives (body.length + 5) [] [.group false {} inner, .look .caret]
          ⟨t.rest.drop 1, false, t.names⟩ = some (source, t') := by
  have hanchored : anchored body = ['^', '(', '?', ':'] ++ (body ++ closing) := by
    simp [anchored, closing]
  have hlength : (anchored body).length + 1 = body.length + 5 + 2 := by
    simp [anchored]
  unfold Source.read? at h
  rw [hlength, hanchored, StateT.run, read_anchored] at h
  split at h
  · next whole t' hread =>
    obtain ⟨inner, t, hinner, hread⟩ := bind_eq_some_iff.mp hread
    obtain ⟨c, _, hc, hread⟩ := bind_eq_some_iff.mp hread
    obtain ⟨rfl, rfl⟩ := result_inj hc
    split at hread
    · exact absurd hread (Option.some_ne_none _).symm
    · next hclosed =>
      obtain ⟨⟨⟩, _, hm, hread⟩ := bind_eq_some_iff.mp hread
      obtain ⟨-, rfl⟩ := result_inj hm
      obtain ⟨⟨⟩, _, hm, hread⟩ := bind_eq_some_iff.mp hread
      obtain ⟨-, rfl⟩ := result_inj hm
      refine ⟨inner, t, hinner, not_not.mp hclosed, t', hread.trans ?_⟩
      split at h
      · rw [Option.some.inj h]
      · exact absurd h (Option.some_ne_none _).symm
  · exact absurd h (Option.some_ne_none _).symm

theorem read?_eq_some_iff {text : List Char} {source : Source} :
    Source.read? text = some source ↔
      ∃ t, readAlternatives (text.length + 1) [] [] { rest := text } = some (source, t) ∧
        t.rest = [] := by
  unfold Source.read?
  rw [StateT.run]
  cases readAlternatives (text.length + 1) [] [] { rest := text } with
  | none => simp
  | some found => simp [Prod.ext_iff, and_comm]

theorem not_leavesGroup {body : List Char} {source : Source} (h : Source.read? body = some source) :
    ¬ LeavesGroup body := by
  rintro ⟨source', cursor, rest, hread, hrest⟩
  obtain ⟨t, ht, hnil⟩ := read?_eq_some_iff.mp h
  obtain ⟨-, rfl⟩ := result_inj (ht.symm.trans hread)
  exact absurd (hnil.symm.trans hrest) (List.cons_ne_nil _ _).symm

/-- Between the anchors the body is read as it is read alone, unless it leaves the group. -/
theorem read_anchored_cases {body : List Char} {source : Source}
    (h : Source.read? (anchored body) = some source) :
    LeavesGroup body ∨ ∃ inner, Source.read? body = some inner ∧ source = wrapped inner := by
  obtain ⟨inner, t, hinner, hclosed, t', hread⟩ := run_anchored h
  have hfollows := follows_readAlternatives (body.length + 5) body.length [] []
  obtain ⟨rest, hrest⟩ := List.head?_eq_some_iff.mp hclosed
  have hroom : closing.length ≤ t.rest.length := by
    obtain ⟨front, hfront⟩ := hfollows.suffix _ _ _ hinner
    cases rest with
    | nil =>
        rw [hrest] at hfront
        have hlast := congrArg List.getLast? hfront
        simp [closing] at hlast
    | cons c rest => simp [hrest, closing]
  obtain ⟨v, hv, hbody⟩ := hfollows.agrees { rest := [] } body inner t (Nat.lt_succ_self _) hinner
    hroom not_false
  cases v with
  | nil =>
      refine .inr ⟨inner, read?_eq_some_iff.mpr ⟨_, hbody, rfl⟩, ?_⟩
      rw [hv] at hread
      exact (result_inj (hread.symm.trans (read_dollar _ inner t.names))).1
  | cons c v =>
      obtain rfl : c = ')' := by
        rw [hv] at hclosed
        exact Option.some.inj hclosed
      exact .inl ⟨inner, _, v, hbody, rfl⟩

/-- The expression that a text means, whatever space it takes. -/
def denoted? (text : List Char) : Option CharExpr := do
  let source ← Source.read? text
  if maxDepth < source.depth then none
  let (e, _) ← source.meaning? {}
  return e

theorem denoted?_eq_some_iff {text : List Char} {e : CharExpr} : denoted? text = some e ↔
    ∃ source flags, Source.read? text = some source ∧ source.depth ≤ maxDepth ∧
      source.meaning? {} = some (e, flags) := by
  constructor
  · intro h
    obtain ⟨source, hread, h⟩ := Option.bind_eq_some_iff.mp h
    split at h
    · exact absurd h (Option.some_ne_none _).symm
    · next hdepth =>
      obtain ⟨⟨e', flags⟩, hmeaning, h⟩ := Option.bind_eq_some_iff.mp h
      obtain rfl := Option.some.inj h
      exact ⟨source, flags, hread, not_lt.mp hdepth, hmeaning⟩
  · rintro ⟨source, flags, hread, hdepth, hmeaning⟩
    refine Option.bind_eq_some_iff.mpr ⟨source, hread, ?_⟩
    rw [if_neg (not_lt.mpr hdepth)]
    exact Option.bind_eq_some_iff.mpr ⟨(e, flags), hmeaning, rfl⟩

theorem denoted?_of_compile? {text : List Char} {e : CharExpr} (h : compile? text = some e) :
    denoted? text = some e := by
  obtain ⟨source, hread, h⟩ := Option.bind_eq_some_iff.mp h
  refine Option.bind_eq_some_iff.mpr ⟨source, hread, ?_⟩
  split at h
  · exact absurd h (Option.some_ne_none _).symm
  · next hdepth =>
    rw [if_neg hdepth]
    obtain ⟨meaning, hmeaning, h⟩ := Option.bind_eq_some_iff.mp h
    refine Option.bind_eq_some_iff.mpr ⟨meaning, hmeaning, ?_⟩
    dsimp only at h
    split at h
    · exact absurd h (Option.some_ne_none _).symm
    · exact h

/-- The expression between its anchors. -/
def whole (e : CharExpr) : CharExpr :=
  .append (.here .textStart) (.append (.group false e) (.here .textEnd))

section Anchors

variable {text : List Char} {i j : Nat}

theorem span_textStart_iff : Span text (.here .textStart) i j ↔ i = 0 ∧ j = 0 := by
  rw [span_here_iff]
  constructor
  · rintro ⟨rfl, hi, holds⟩
    cases i with
    | zero => exact ⟨rfl, rfl⟩
    | succ i => simp [Look.holds, around, List.getElem?_eq_getElem (Nat.lt_of_succ_le hi)] at holds
  · rintro ⟨rfl, rfl⟩
    exact ⟨rfl, Nat.zero_le _, rfl⟩

theorem span_textEnd_iff :
    Span text (.here .textEnd) i j ↔ i = text.length ∧ j = text.length := by
  rw [span_here_iff]
  constructor
  · rintro ⟨rfl, hi, holds⟩
    have hge : text.length ≤ i := by simpa [Look.holds, around] using holds
    exact ⟨le_antisymm hi hge, le_antisymm hi hge⟩
  · rintro ⟨rfl, rfl⟩
    exact ⟨rfl, le_rfl, by simp [Look.holds, around]⟩

theorem span_whole_iff {e : CharExpr} :
    Span text (whole e) i j ↔ i = 0 ∧ j = text.length ∧ Span text e 0 text.length := by
  simp only [whole, span_append_iff, span_group_iff, span_textStart_iff, span_textEnd_iff]
  constructor
  · rintro ⟨_, ⟨rfl, rfl⟩, _, hspan, rfl, rfl⟩
    exact ⟨rfl, rfl, hspan⟩
  · rintro ⟨rfl, rfl, hspan⟩
    exact ⟨0, ⟨rfl, rfl⟩, _, hspan, rfl, rfl⟩

end Anchors

theorem meaning?_wrapped {source : Source} {e : CharExpr} {flags : Flags}
    (h : (wrapped source).meaning? {} = some (e, flags)) :
    ∃ inner flags', source.meaning? {} = some (inner, flags') ∧ e = whole inner := by
  obtain ⟨⟨rest, _⟩, hrest, h⟩ := Option.bind_eq_some_iff.mp h
  obtain ⟨⟨group, _⟩, hgroup, hrest⟩ := Option.bind_eq_some_iff.mp hrest
  obtain ⟨⟨inner, flags'⟩, hinner, hgroup⟩ := Option.bind_eq_some_iff.mp hgroup
  obtain ⟨rfl, rfl⟩ := result_inj hgroup
  obtain ⟨rfl, rfl⟩ := result_inj hrest
  obtain ⟨rfl, rfl⟩ := result_inj h
  exact ⟨inner, flags', hinner, rfl⟩

theorem depth_le_wrapped (source : Source) : source.depth ≤ (wrapped source).depth := by
  simp only [wrapped, Source.depth]
  omega

/-- Unless the body leaves the group, the text between the anchors means the whole body. -/
theorem compile?_anchored {body : List Char} {e : CharExpr} (h : compile? (anchored body) = some e)
    (hbody : ¬ LeavesGroup body) :
    ∃ inner, denoted? body = some inner ∧ e = whole inner ∧ Ordered inner := by
  obtain ⟨outer, flags, houter, hdepth, hmeaning⟩ :=
    denoted?_eq_some_iff.mp (denoted?_of_compile? h)
  obtain hleaves | ⟨source, hread, rfl⟩ := read_anchored_cases houter
  · exact absurd hleaves hbody
  obtain ⟨inner, flags', hinner, rfl⟩ := meaning?_wrapped hmeaning
  have hcounted : Counted source := by
    obtain ⟨t, ht, -⟩ := read?_eq_some_iff.mp hread
    exact yields_readAlternatives _ (List.forall_mem_nil _) (List.forall_mem_nil _) _ _ _ ht
  exact ⟨inner, denoted?_eq_some_iff.mpr ⟨source, flags', hread,
    (depth_le_wrapped source).trans hdepth, hinner⟩, rfl, ordered_of_meaning? hcounted hinner⟩

theorem relevance_eq_one_iff {e : Expression} {inner : CharExpr} (he : e.meaning = whole inner)
    (hinner : Ordered inner) (d : Domain) :
    e.relevance d = 1 ↔ Span d.text.toList inner 0 d.text.toList.length := by
  have hordered : Ordered (whole inner) := ⟨trivial, hinner, trivial⟩
  have hspan : (whole inner).foundIn d.text.toList = true ↔
      Span d.text.toList inner 0 d.text.toList.length := by
    rw [foundIn_iff d.text.toList hordered]
    simp only [span_whole_iff]
    constructor
    · rintro ⟨i, j, -, -, h⟩
      exact h
    · intro h
      exact ⟨0, _, rfl, rfl, h⟩
  rw [← hspan, Expression.relevance, he]
  split <;> simp_all

theorem text_of_parse {text : String} {e : Expression} (h : Expression.parse text = .ok e) :
    Text.trim text = e.text := by
  simp only [Expression.parse] at h
  split at h
  · exact absurd h (by simp)
  · next body hbody =>
    split at h
    · next found hfound =>
      obtain rfl := Except.ok.inj h
      have hfoundBody : found.body = body := by
        rw [Expression.ofBody?] at hfound
        split at hfound
        · obtain rfl := Option.some.inj hfound
          rfl
        · exact absurd hfound (Option.some_ne_none _).symm
      rw [(body?_eq_some_iff.mp hbody).1, Expression.text, hfoundBody]
    · exact absurd h (by simp)

/-- An expression that is accepted matches the whole names that its body means, and its body means
something, just when the body does not close the group it is put into. -/
theorem accepted_matches_whole {text : String} {e : Expression}
    (h : Expression.parse text = .ok e) :
    Text.trim text = e.text ∧
      ((∃ m, denoted? e.body.toList = some m) ↔ ¬ LeavesGroup e.body.toList) ∧
        ∀ m, denoted? e.body.toList = some m → ∀ d : Domain,
          (e.relevance d = 1 ↔ Span d.text.toList m 0 d.text.toList.length) ∧
            (e.relevance d = 0 ↔ ¬ Span d.text.toList m 0 d.text.toList.length) := by
  have halone : ∀ m, denoted? e.body.toList = some m → ¬ LeavesGroup e.body.toList := by
    intro m hm
    obtain ⟨source, -, hread, -, -⟩ := denoted?_eq_some_iff.mp hm
    exact not_leavesGroup hread
  refine ⟨text_of_parse h, ⟨fun ⟨m, hm⟩ => halone m hm, fun hbody => ?_⟩, fun m hm d => ?_⟩
  · obtain ⟨inner, hinner, -, -⟩ := compile?_anchored e.compiled hbody
    exact ⟨inner, hinner⟩
  · obtain ⟨inner, hinner, hmeaning, hordered⟩ := compile?_anchored e.compiled (halone m hm)
    obtain rfl := Option.some.inj (hinner.symm.trans hm)
    have hone := relevance_eq_one_iff hmeaning hordered d
    refine ⟨hone, ?_⟩
    rw [← hone, Expression.relevance]
    split <;> simp

/-- The alternatives of a body are put into one group, so both match whole names only. -/
theorem alternatives_match_whole : ∃ e : Expression, Expression.parse "/A|B/" = .ok e ∧
    e.body = "A|B" ∧ ∃ m, denoted? e.body.toList = some m ∧
      (e.relevance ⟨"B"⟩ = 1 ∧ Span "B".toList m 0 1) ∧
        (e.relevance ⟨"AB"⟩ = 0 ∧ ¬ Span "AB".toList m 0 2) := by
  have hcompiled : (compile? (anchored "A|B".toList)).any
      (fun e => e.foundIn "B".toList && !e.foundIn "AB".toList) = true := by decide +kernel
  obtain ⟨meaning, hmeaning, hfound⟩ := (Option.any_eq_true ..).mp hcompiled
  obtain ⟨hB, hAB⟩ := Bool.and_eq_true_iff.mp hfound
  have hparse : Expression.parse "/A|B/" = .ok ⟨"A|B", meaning, hmeaning⟩ :=
    expressionParse_of_compiled (by decide +kernel) (by decide +kernel) hmeaning
  have hdenoted : (denoted? "A|B".toList).isSome = true := by decide +kernel
  obtain ⟨m, hm⟩ := Option.isSome_iff_exists.mp hdenoted
  obtain ⟨-, -, hmatches⟩ := accepted_matches_whole hparse
  have hone : Expression.relevance ⟨"A|B", meaning, hmeaning⟩ ⟨"B"⟩ = 1 := if_pos hB
  have hzero : Expression.relevance ⟨"A|B", meaning, hmeaning⟩ ⟨"AB"⟩ = 0 :=
    if_neg ((Bool.not_eq_true' _).mp hAB ▸ Bool.false_ne_true)
  exact ⟨_, hparse, rfl, m, hm, ⟨hone, (hmatches m hm ⟨"B"⟩).1.mp hone⟩, hzero,
    (hmatches m hm ⟨"AB"⟩).2.mp hzero⟩

/-- The body `A)|(?:B` means nothing alone.  It closes the group it is put into, and names match
that begin with `A` or end with `B`. -/
theorem left_group_accepted : ∃ e : Expression, Expression.parse "/A)|(?:B/" = .ok e ∧
    e.body = "A)|(?:B" ∧ denoted? e.body.toList = none ∧
      ∀ name ∈ ["A", "AX", "XB"], e.relevance ⟨name⟩ = 1 := by
  have hcompiled : (compile? (anchored "A)|(?:B".toList)).any
      (fun e => ["A", "AX", "XB"].all fun name => e.foundIn name.toList) = true := by decide +kernel
  obtain ⟨meaning, hmeaning, hfound⟩ := (Option.any_eq_true ..).mp hcompiled
  have hparse : Expression.parse "/A)|(?:B/" = .ok ⟨"A)|(?:B", meaning, hmeaning⟩ :=
    expressionParse_of_compiled (by decide +kernel) (by decide +kernel) hmeaning
  have hread : Source.read? "A)|(?:B".toList = none := by decide +kernel
  refine ⟨_, hparse, rfl, ?_, fun name hname => ?_⟩
  · exact Option.bind_eq_none_iff.mpr fun source h => absurd (hread.symm.trans h) (by simp)
  · rw [Expression.relevance, if_pos (List.all_eq_true.mp hfound name hname)]

end NamespacePolicy.Proofs.WholeNames
