import NamespacePolicy.Proofs.FirstBadByte

/-!
Positions and the way back from them.  From a position one walks to its line and then on in that
line, and this leads exactly to the byte offset that has the position.  So positions tell the
offsets between characters apart, and they come in the order of these offsets.
-/

namespace NamespacePolicy.Proofs.Positions

open FirstBadByte Text

/-- The offset of a column in the line with which a text begins.  Columns count from one, and no
line break is passed. -/
def columnOffset? : (column : Nat) → List Char → Option Nat
  | 0, _ => none
  | 1, _ => some 0
  | _ + 2, [] => none
  | column + 2, c :: rest =>
      if c = '\n' then none else (columnOffset? (column + 1) rest).map (c.utf8Size + ·)

/-- The offset to which one comes by passing line breaks until the line is reached, and then going
on in that line to the column.  Lines count from one. -/
def walk? : (line column : Nat) → List Char → Option Nat
  | 0, _, _ => none
  | 1, column, text => columnOffset? column text
  | _ + 2, _, [] => none
  | line + 2, column, c :: rest =>
      (walk? (if c = '\n' then line + 1 else line + 2) column rest).map (c.utf8Size + ·)

/-- The offset lies between two characters, or at an end of the text. -/
def IsBoundary (text : List Char) (offset : Nat) : Prop :=
  ∃ before, before <+: text ∧ Utf8.size before = offset

/-- The first position comes before the second one. -/
def Precedes (p q : Position) : Prop :=
  p.line < q.line ∨ p.line = q.line ∧ p.column < q.column

theorem after_concat (text : List Char) (c : Char) :
    Position.after (text ++ [c]) =
      if c = '\n' then ⟨(Position.after text).line + 1, 1⟩
      else ⟨(Position.after text).line, (Position.after text).column + 1⟩ := by
  by_cases hc : c = '\n' <;> simp [Position.after, hc, List.count_append]

/-- A character in front leaves the last line as it is, if there is a line break before that line. -/
theorem isLastLine_cons {c : Char} {text last : List Char} (h : IsLastLine text last)
    (hmem : '\n' ∈ c :: text) : IsLastLine (c :: text) last := by
  refine ⟨h.not_mem, .inr ?_⟩
  rcases h.isEnd with rfl | ⟨before, rfl⟩
  · rcases List.mem_cons.mp hmem with rfl | hmem
    · exact ⟨[], rfl⟩
    · exact absurd hmem h.not_mem
  · exact ⟨c :: before, rfl⟩

theorem after_newline_cons (text : List Char) :
    Position.after ('\n' :: text) =
      ⟨(Position.after text).line + 1, (Position.after text).column⟩ := by
  obtain ⟨last, hlast⟩ := exists_isLastLine text
  rw [(isLastLine_cons hlast List.mem_cons_self).after_eq, hlast.after_eq, List.count_cons_self]

theorem after_cons_of_mem {c : Char} (hc : c ≠ '\n') {text : List Char} (h : '\n' ∈ text) :
    Position.after (c :: text) = Position.after text := by
  obtain ⟨last, hlast⟩ := exists_isLastLine text
  rw [(isLastLine_cons hlast (List.mem_cons_of_mem c h)).after_eq, hlast.after_eq,
    List.count_cons_of_ne hc]

theorem after_of_not_mem {text : List Char} (h : '\n' ∉ text) :
    Position.after text = ⟨1, text.length + 1⟩ := by
  have hlast : IsLastLine text text := ⟨h, .inl rfl⟩
  rw [hlast.after_eq, List.count_eq_zero.mpr h]

theorem line_after_of_mem {text : List Char} (h : '\n' ∈ text) :
    ∃ line, (Position.after text).line = line + 2 := by
  obtain ⟨breaks, hbreaks⟩ := Nat.exists_eq_add_of_lt (List.count_pos_iff.mpr h)
  refine ⟨breaks, ?_⟩
  rw [Position.after, hbreaks, Nat.zero_add]

theorem columnOffset?_append {run : List Char} (h : '\n' ∉ run) (rest : List Char) :
    columnOffset? (run.length + 1) (run ++ rest) = some (Utf8.size run) := by
  induction run with
  | nil => cases rest <;> rfl
  | cons c run ih =>
      obtain ⟨hc, hrun⟩ := not_or.mp (List.mem_cons.not.mp h)
      rw [List.length_cons, List.cons_append, columnOffset?, if_neg (Ne.symm hc), ih hrun,
        Option.map_some, Utf8.size]

theorem exists_of_columnOffset? {column offset : Nat} {text : List Char}
    (h : columnOffset? column text = some offset) :
    ∃ run, run <+: text ∧ '\n' ∉ run ∧ run.length + 1 = column ∧ Utf8.size run = offset := by
  fun_induction columnOffset? column text generalizing offset with
  | case1 => cases h
  | case2 => exact ⟨[], List.nil_prefix, List.not_mem_nil, rfl, Option.some.inj h⟩
  | case3 => cases h
  | case4 => cases h
  | case5 column c rest hc ih =>
      obtain ⟨more, hmore, rfl⟩ := Option.map_eq_some_iff.mp h
      obtain ⟨run, hrun, hnot, hlength, rfl⟩ := ih hmore
      exact ⟨c :: run, (List.prefix_cons_inj c).mpr hrun, by simp [hnot, Ne.symm hc],
        congrArg (· + 1) hlength, rfl⟩

/-- From the position after some characters one comes to the end of these. -/
theorem walk?_after {before text : List Char} (h : before <+: text) :
    walk? (Position.after before).line (Position.after before).column text =
      some (Utf8.size before) := by
  induction before generalizing text with
  | nil => cases text <;> rfl
  | cons c before ih =>
      obtain ⟨rest, rfl⟩ := h
      have hwalk := ih (List.prefix_append before rest)
      -- A line break, a character of a line that is passed, or one of the last line.
      by_cases hc : c = '\n'
      · subst hc
        rw [after_newline_cons, List.cons_append]
        obtain ⟨line, hline⟩ : ∃ line, (Position.after before).line = line + 1 := ⟨_, rfl⟩
        rw [hline] at hwalk
        simp only [hline, walk?, if_pos, hwalk, Option.map_some, Utf8.size]
      · by_cases hmem : '\n' ∈ before
        · obtain ⟨line, hline⟩ := line_after_of_mem hmem
          rw [hline] at hwalk
          rw [after_cons_of_mem hc hmem, hline, List.cons_append, walk?, if_neg hc, hwalk,
            Option.map_some, Utf8.size]
        · have hnot : '\n' ∉ c :: before := by simp [hmem, Ne.symm hc]
          rw [after_of_not_mem hnot]
          exact columnOffset?_append hnot rest

/-- One comes only to places that have the position from which one set out. -/
theorem exists_of_walk? {line column offset : Nat} {text : List Char}
    (h : walk? line column text = some offset) :
    ∃ before, before <+: text ∧ Utf8.size before = offset ∧
      Position.after before = ⟨line, column⟩ := by
  fun_induction walk? line column text generalizing offset with
  | case1 => cases h
  | case2 column text =>
      obtain ⟨run, hrun, hnot, rfl, hsize⟩ := exists_of_columnOffset? h
      exact ⟨run, hrun, hsize, after_of_not_mem hnot⟩
  | case3 => cases h
  | case4 line column c rest ih =>
      obtain ⟨more, hmore, rfl⟩ := Option.map_eq_some_iff.mp h
      obtain ⟨before, hbefore, rfl, hafter⟩ := ih hmore
      refine ⟨c :: before, (List.prefix_cons_inj c).mpr hbefore, rfl, ?_⟩
      by_cases hc : c = '\n'
      · subst hc
        rw [after_newline_cons, hafter, if_pos rfl]
      · rw [if_neg hc] at hafter
        -- The line is not the first one, so the characters before it hold a line break.
        have hmem : '\n' ∈ before := by
          by_contra hnot
          rw [after_of_not_mem hnot] at hafter
          cases hafter
        rw [after_cons_of_mem hc hmem, hafter]

theorem Precedes.trans {p q r : Position} (hpq : Precedes p q) (hqr : Precedes q r) :
    Precedes p r := by
  simp only [Precedes] at *
  omega

theorem Precedes.not_self (p : Position) : ¬ Precedes p p := by
  simp [Precedes]

theorem precedes_after_concat (text : List Char) (c : Char) :
    Precedes (Position.after text) (Position.after (text ++ [c])) := by
  rw [after_concat]
  split
  · exact .inl (Nat.lt_succ_self _)
  · exact .inr ⟨rfl, Nat.lt_succ_self _⟩

theorem precedes_after_append (text : List Char) (c : Char) (more : List Char) :
    Precedes (Position.after text) (Position.after (text ++ c :: more)) := by
  induction more generalizing text c with
  | nil => exact precedes_after_concat text c
  | cons next more ih =>
      have hrest := ih (text ++ [c]) next
      rw [List.append_assoc, List.singleton_append] at hrest
      exact (precedes_after_concat text c).trans hrest

theorem size_lt_append (text : List Char) (c : Char) (more : List Char) :
    Utf8.size text < Utf8.size (text ++ c :: more) := by
  have hpos := c.utf8Size_pos
  simp only [size_eq, Utf8.encode, List.flatMap_append, List.flatMap_cons, List.length_append,
    String.length_utf8EncodeChar]
  omega

/-- Of two beginnings of a text that differ, one goes on where the other one ends. -/
theorem prefix_cases {a b text : List Char} (ha : a <+: text) (hb : b <+: text) :
    a = b ∨ (∃ c more, b = a ++ c :: more) ∨ ∃ c more, a = b ++ c :: more := by
  rcases List.prefix_or_prefix_of_prefix ha hb with ⟨_ | ⟨c, more⟩, rfl⟩ | ⟨_ | ⟨c, more⟩, rfl⟩
  · exact .inl (List.append_nil a).symm
  · exact .inr (.inl ⟨c, more, rfl⟩)
  · exact .inl (List.append_nil b)
  · exact .inr (.inr ⟨c, more, rfl⟩)

theorem precedes_after_iff {a b text : List Char} (ha : a <+: text) (hb : b <+: text) :
    Precedes (Position.after a) (Position.after b) ↔ Utf8.size a < Utf8.size b := by
  rcases prefix_cases ha hb with rfl | ⟨c, more, rfl⟩ | ⟨c, more, rfl⟩
  · simp [Precedes.not_self]
  · exact iff_of_true (precedes_after_append a c more) (size_lt_append a c more)
  · refine iff_of_false (fun h => ?_) (Nat.lt_asymm (size_lt_append b c more))
    exact Precedes.not_self _ (h.trans (precedes_after_append b c more))

theorem ofOffset_size {before text : List Char} (h : before <+: text) :
    Position.ofOffset text (Utf8.size before) = .after before := by
  obtain ⟨more, rfl⟩ := h
  exact ofOffset_append before more

theorem before?_of_size_le {text : List Char} {offset : Nat} (h : Utf8.size text ≤ offset) :
    before? text offset = some text := by
  induction text generalizing offset with
  | nil => cases offset <;> rfl
  | cons c rest ih =>
      have hpos := c.utf8Size_pos
      rw [Utf8.size] at h
      rw [before?, if_pos (by omega), ih (by omega), Option.map_some]
      omega

theorem ofOffset_of_size_le {text : List Char} {offset : Nat} (h : Utf8.size text ≤ offset) :
    Position.ofOffset text offset = .ofOffset text (Utf8.size text) := by
  rw [Position.ofOffset, before?_of_size_le h, Option.getD_some, ofOffset_size List.prefix_rfl]

theorem walk?_eq_some_iff {text : List Char} {p : Position} {offset : Nat} :
    walk? p.line p.column text = some offset ↔
      IsBoundary text offset ∧ Position.ofOffset text offset = p := by
  constructor
  · intro h
    obtain ⟨before, hbefore, rfl, hafter⟩ := exists_of_walk? h
    exact ⟨⟨before, hbefore, rfl⟩, (ofOffset_size hbefore).trans hafter⟩
  · rintro ⟨⟨before, hbefore, rfl⟩, rfl⟩
    rw [ofOffset_size hbefore]
    exact walk?_after hbefore

section Boundaries

variable {text : List Char} {a b : Nat} (ha : IsBoundary text a) (hb : IsBoundary text b)
include ha hb

theorem ofOffset_eq_iff : Position.ofOffset text a = .ofOffset text b ↔ a = b := by
  refine ⟨fun h => ?_, congrArg _⟩
  have hwalk := walk?_eq_some_iff.mpr ⟨ha, h⟩
  rw [walk?_eq_some_iff.mpr ⟨hb, rfl⟩] at hwalk
  exact (Option.some.inj hwalk).symm

theorem precedes_ofOffset_iff :
    Precedes (.ofOffset text a) (.ofOffset text b) ↔ a < b := by
  obtain ⟨before, hbefore, rfl⟩ := ha
  obtain ⟨before', hbefore', rfl⟩ := hb
  rw [ofOffset_size hbefore, ofOffset_size hbefore']
  exact precedes_after_iff hbefore hbefore'

end Boundaries

/-- From the position of an offset between characters one comes back to this offset, and to no
offset from any other position.  Such offsets have different positions, in their own order, and all
offsets past the end have the position of the end. -/
theorem ofOffset_invertible (text : List Char) :
    (∀ (p : Position) (offset : Nat), walk? p.line p.column text = some offset ↔
      IsBoundary text offset ∧ Position.ofOffset text offset = p) ∧
    (∀ a b, IsBoundary text a → IsBoundary text b →
      (Position.ofOffset text a = .ofOffset text b ↔ a = b) ∧
        (Precedes (.ofOffset text a) (.ofOffset text b) ↔ a < b)) ∧
    ∀ offset, Utf8.size text ≤ offset →
      Position.ofOffset text offset = .ofOffset text (Utf8.size text) :=
  ⟨fun _ _ => walk?_eq_some_iff,
    fun _ _ ha hb => ⟨ofOffset_eq_iff ha hb, precedes_ofOffset_iff ha hb⟩,
    fun _ => ofOffset_of_size_le⟩

/-- An offset on an empty line, which is that of a line break, and one after a wide character. -/
theorem offsets_after_wide_characters :
    let text : List Char := ['ä', '\n', '\n', '€', 'x']
    IsBoundary text 3 ∧ IsBoundary text 7 ∧ Utf8.size text ≤ 99 ∧
      walk? 2 1 text = some 3 ∧ walk? 3 2 text = some 7 ∧
      (Position.ofOffset text 3 = .ofOffset text 7 ↔ 3 = 7) ∧
      (Precedes (.ofOffset text 3) (.ofOffset text 7) ↔ 3 < 7) ∧
      Position.ofOffset text 99 = .ofOffset text 8 := by
  intro text
  obtain ⟨hwalk, horder, hpast⟩ := ofOffset_invertible text
  have h3 : IsBoundary text 3 := ⟨['ä', '\n'], ⟨_, rfl⟩, rfl⟩
  have h7 : IsBoundary text 7 := ⟨['ä', '\n', '\n', '€'], ⟨_, rfl⟩, rfl⟩
  have hsize : Utf8.size text ≤ 99 := by decide
  exact ⟨h3, h7, hsize, (hwalk ⟨2, 1⟩ 3).mpr ⟨h3, by decide⟩, (hwalk ⟨3, 2⟩ 7).mpr ⟨h7, by decide⟩,
    (horder 3 7 h3 h7).1, (horder 3 7 h3 h7).2, hpast 99 hsize⟩

end NamespacePolicy.Proofs.Positions
