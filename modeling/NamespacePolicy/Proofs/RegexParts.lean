import Mathlib.Data.List.TakeWhile
import NamespacePolicy.Proofs.RegexReading

/-!
Escapes, sets, openings of groups and counts do not need what stands behind the parenthesis.
-/

namespace NamespacePolicy.Proofs.RegexParts

open Regex Reader Unicode RegexReading

section Escapes

variable {b : Nat}

theorem follows_readHexDigits (count : Nat) (done : List Char) :
    Follows b 0 1 (readHexDigits (count + 1) done) (readHexDigits (count + 1) done) := by
  induction count generalizing b done with
  | zero =>
      exact follows_current.look fun _ => .unless fun _ =>
        follows_bumpSpace.step fun _ => follows_pure _
  | succ count ih =>
      exact follows_current.look fun _ => .unless fun _ =>
        follows_bumpSpace.step fun _ => (ih _).weaken

theorem follows_readBracedHex (n m : Nat) (done : List Char) :
    Follows (m + 1) 0 1 (readBracedHex n done) (readBracedHex (m + 1) done) := by
  induction n generalizing m done with
  | zero => exact follows_refuse
  | succ n ih =>
      refine follows_current.look fun c => .ite (fun _ => ?_) fun _ => ?_
      · exact follows_bumpSpace.step fun _ => follows_pure _
      · refine .unless fun _ => follows_bumpSpace.step fun _ => ?_
        exact (FollowsUnless.fuel (F := fun m => readBracedHex m (c :: done))
          (fun m => ih m _) m).weaken

theorem follows_readHex (kind : Char) : Follows b 0 1 (readHex kind) (readHex kind) := by
  refine follows_bumpSpace.step fun _ => FollowsUnless.weaken (d := 1) ?_
  refine follows_current.look fun c => .ite (fun _ => ?_) fun _ => ?_
  · refine follows_bumpSpace.step fun _ => follows_get_fuel fun s s' => ?_
    refine (follows_readBracedHex _ _ _).weaken.then fun digits => .unless fun _ => ?_
    cases charOfCode? (hexValue digits) with
    | none => exact follows_refuse
    | some c => exact follows_pure _
  · obtain ⟨count, hcount⟩ : ∃ count,
        (if kind = 'x' then 2 else if kind = 'u' then 4 else 8) = count + 1 :=
      Nat.exists_eq_succ_of_ne_zero (by split <;> [skip; split] <;> decide)
    rw [hcount]
    refine (follows_readHexDigits _ _).step fun digits => ?_
    cases charOfCode? (hexValue digits) with
    | none => exact follows_refuse
    | some c => exact follows_pure _

theorem follows_readPropertyName (n m : Nat) (done : List Char) :
    Follows (m + 1) 0 1 (readPropertyName n done) (readPropertyName (m + 1) done) := by
  induction n generalizing m done with
  | zero => exact follows_refuse
  | succ n ih =>
      refine follows_current.look fun c => .ite (fun _ => ?_) fun _ => ?_
      · exact follows_bump.step fun _ => follows_pure _
      · refine follows_bumpSpace.step fun _ => ?_
        exact (FollowsUnless.fuel (F := fun m => readPropertyName m (c :: done))
          (fun m => ih m _) m).weaken

theorem follows_readProperty (negated : Bool) :
    Follows b 0 1 (readProperty negated) (readProperty negated) := by
  refine follows_bumpSpace.step fun _ => FollowsUnless.weaken (d := 1) ?_
  refine follows_current.look fun c => .ite (fun _ => ?_) fun _ => .ite (fun _ => ?_) fun _ => ?_
  · refine follows_bumpSpace.step fun _ => follows_get_fuel fun s s' => ?_
    refine (follows_readPropertyName _ _ _).weaken.then fun name => ?_
    refine FollowsUnless.then (follows_pure _) fun found => ?_
    obtain ⟨_ | members, negated⟩ := found
    · exact follows_refuse
    · exact follows_pure _
  · exact follows_refuse
  · refine follows_bumpSpace.step fun _ => ?_
    refine FollowsUnless.then (follows_pure _) fun found => ?_
    obtain ⟨_ | members, negated⟩ := found
    · exact follows_refuse
    · exact follows_pure _

theorem follows_readBoundaryName (n m : Nat) (done : List Char) :
    Follows (m + 1) 0 0 (readBoundaryName n done) (readBoundaryName (m + 1) done) := by
  induction n generalizing m done with
  | zero => exact follows_refuse
  | succ n ih =>
      refine follows_peek (fun c => ?_) rfl
      cases c with
      | none => exact follows_pure _
      | some c =>
          refine .ite (fun _ => ?_) fun _ => follows_pure _
          refine FollowsUnless.weaken (d := 1) (follows_bumpSpace.step fun _ => ?_)
          exact FollowsUnless.fuel (F := fun m => readBoundaryName m (c :: done))
            (fun m => ih m _) m

/-- Where a boundary has no name in braces behind it, the reader goes back to the brace. -/
theorem readBoundary_eq_some_iff : ∃ Q : Char → Reader Boundary,
    (∀ b c, Follows b 0 1 (Q c) (Q c)) ∧ ∀ s a t, readBoundary s = some (a, t) ↔
      s.rest.head? ≠ some '\x7b' ∧ a = .edge ∧ t = s ∨
      s.rest.head? = some '\x7b' ∧ ∃ m c, bumpSpace s = some ((), m) ∧ m.rest.head? = some c ∧
        (isBoundaryLetter c = false ∧ a = .edge ∧ t = s ∨
          isBoundaryLetter c = true ∧ Q c m = some (a, t)) := by
  obtain ⟨Q, hQ, hread⟩ : ∃ Q : Char → Reader Boundary, (∀ b c, Follows b 0 1 (Q c) (Q c)) ∧
      readBoundary = (peek >>= fun first =>
        if first ≠ some '\x7b' then pure .edge
        else get >>= fun start => bumpSpace >>= fun _ => current >>= fun c =>
          if (!isBoundaryLetter c) = true then set start >>= fun _ => pure .edge else Q c) := by
    refine ⟨_, fun b c => ?_, rfl⟩
    refine follows_get_fuel fun s s' => (follows_readBoundaryName _ _ _).then fun name => ?_
    refine follows_current.look fun c => .unless fun _ => follows_bump.step fun _ => ?_
    split <;> first | exact follows_pure _ | exact follows_refuse
  refine ⟨Q, hQ, fun s a t => ?_⟩
  have hedge : ∀ {t' : Cursor}, some (Boundary.edge, t') = some (a, t) ↔ a = .edge ∧ t = t' := by
    simp [eq_comm]
  rw [hread]
  change (if s.rest.head? ≠ some '\x7b' then pure Boundary.edge else _ : Reader Boundary) s = _ ↔ _
  split
  · next hfirst =>
    simp only [hfirst, ne_eq, not_false_eq_true, true_and, false_and, or_false]
    exact hedge
  · next hfirst =>
    simp only [not_not.mp hfirst, ne_eq, not_true_eq_false, true_and, false_and, false_or]
    have hstart : (get >>= fun start => bumpSpace >>= fun _ => current >>= fun c =>
        if (!isBoundaryLetter c) = true then set start >>= fun _ => pure .edge else Q c :
          Reader Boundary) s = (bumpSpace >>= fun _ => current >>= fun c =>
        if (!isBoundaryLetter c) = true then set s >>= fun _ => pure .edge else Q c) s := rfl
    rw [hstart, bind_eq_some_iff]
    simp only [bind_eq_some_iff, current_eq_some_iff]
    constructor
    · rintro ⟨⟨⟩, m, hm, c, _, ⟨hc, rfl⟩, h⟩
      refine ⟨_, c, hm, hc, ?_⟩
      cases hletter : isBoundaryLetter c with
      | false =>
          rw [hletter] at h
          exact .inl ⟨rfl, hedge.mp h⟩
      | true =>
          rw [hletter] at h
          exact .inr ⟨rfl, h⟩
    · rintro ⟨m, c, hm, hc, ⟨hletter, ha⟩ | ⟨hletter, ha⟩⟩
      · refine ⟨(), m, hm, c, m, ⟨hc, rfl⟩, ?_⟩
        rw [hletter]
        exact hedge.mpr ha
      · refine ⟨(), m, hm, c, m, ⟨hc, rfl⟩, ?_⟩
        rw [hletter]
        exact ha

/-- Before a brace behind which the text comes to its end. -/
def Cornered (t : Cursor) : Prop :=
  t.rest.head? = some '\x7b' ∧ ∀ m, bumpSpace t = some ((), m) → m.rest.length ≤ closing.length

theorem follows_readBoundary :
    FollowsUnless (fun _ t => Cornered t) b 0 0 readBoundary readBoundary := by
  obtain ⟨Q, hQ, hread⟩ := readBoundary_eq_some_iff
  have hsuffix : ∀ s a t, readBoundary s = some (a, t) → t.rest <:+ s.rest := by
    intro s a t h
    obtain ⟨-, -, rfl⟩ | ⟨-, m, c, hm, -, ⟨-, -, rfl⟩ | ⟨-, ha⟩⟩ := (hread s a t).mp h
    · exact List.suffix_rfl
    · exact List.suffix_rfl
    · exact ((hQ 0 c).suffix m a t ha).trans ((follows_bumpSpace (b := 0)).suffix s () m hm)
  refine ⟨hsuffix, fun s a t h _ => (hsuffix s a t h).length_le, fun s u a t _ h ht hfree => ?_⟩
  obtain ⟨hfirst, rfl, rfl⟩ | ⟨hfirst, m, c, hm, hc, h⟩ := (hread _ a t).mp h
  · refine ⟨u, rfl, (hread _ _ _).mpr (.inl ⟨?_, rfl, rfl⟩)⟩
    cases u with
    | nil => exact (Option.some_ne_none _).symm
    | cons first u => exact hfirst
  · obtain ⟨first, u, rfl⟩ : ∃ first w, u = first :: w := by
      cases u with
      | nil =>
          rw [withRest_rest] at hfirst
          exact absurd hfirst (by decide)
      | cons first u => exact ⟨first, u, rfl⟩
    have hroom : closing.length + 1 ≤ m.rest.length := by
      obtain ⟨-, rfl, rfl⟩ | ⟨-, ha⟩ := h
      · by_contra hroom
        refine hfree ⟨hfirst, fun m' hm' => ?_⟩
        obtain rfl := (result_inj (hm.symm.trans hm')).2
        omega
      · have htakes := (hQ 0 c).takes m a t ha (by omega)
        omega
    obtain ⟨v, hv, hm'⟩ := follows_bumpSpace.agrees s _ () m (Nat.lt_succ_self _) hm
      (by omega) not_false
    have hc' : v.head? = some c := by
      cases v with
      | nil =>
          rw [hv] at hroom
          exact absurd hroom (by decide)
      | cons first v => simpa [hv] using hc
    obtain ⟨hletter, rfl, rfl⟩ | ⟨hletter, ha⟩ := h
    · exact ⟨first :: u, rfl, (hread _ _ _).mpr
        (.inr ⟨hfirst, _, c, hm', hc', .inl ⟨hletter, rfl, rfl⟩⟩)⟩
    · obtain ⟨w, hw, ha'⟩ := (hQ _ c).agrees m v a t (Nat.lt_succ_self _) (by rwa [← hv])
        (by omega) not_false
      exact ⟨w, hw, (hread _ _ _).mpr (.inr ⟨hfirst, _, c, hm', hc', .inr ⟨hletter, ha'⟩⟩)⟩

/-- A boundary was read, but what was meant to be its name is not. -/
def Astray (item : Escape) (t : Cursor) : Prop := (∃ term, item = .look term) ∧ Cornered t

theorem follows_readEscape : FollowsUnless Astray b 0 1 readEscape readEscape := by
  have hboundary : ∀ b, FollowsUnless Astray b 0 0
      (readBoundary >>= fun boundary => pure (Escape.look (.word boundary)))
      (readBoundary >>= fun boundary => pure (Escape.look (.word boundary))) := by
    intro b
    refine follows_readBoundary.bindUnless (fun _ => follows_pure _) ?_ (Nat.le_refl _)
      (Nat.zero_le _) (Nat.le_refl _)
    intro boundary m hm item t h _
    obtain ⟨rfl, rfl⟩ := result_inj h
    exact ⟨⟨_, rfl⟩, hm⟩
  refine follows_bump.step fun _ => FollowsUnless.weaken (d := 1) ?_
  refine follows_current.look fun c => .ite (fun _ => ?_) fun _ => .ite (fun _ => ?_) fun _ => ?_
  · exact (follows_readHex c).andReturn _
  · exact (follows_readProperty _).andReturn _
  · refine follows_bump.step fun _ => .ite (fun _ => follows_pure _) fun _ => ?_
    split <;> first | exact follows_pure _ | exact hboundary _ | exact follows_refuse

end Escapes

section Words

variable {sep : Char} {name rest text : List Char}

theorem takeWhile_sep (h : sep ∉ name) :
    (name ++ sep :: rest).takeWhile (· ≠ sep) = name := by
  rw [List.takeWhile_append_of_pos]
  · simp
  · intro c hc
    exact decide_eq_true fun heq => h (heq ▸ hc)

theorem takeWhile_of_not_mem (h : sep ∉ text) : text.takeWhile (· ≠ sep) = text :=
  List.takeWhile_eq_self_iff.mpr fun _ hc => decide_eq_true fun heq => h (heq ▸ hc)

end Words

/-- The set whose name comes next, and what is behind it. -/
def namedSet? (negated : Bool) (text : List Char) : Option (SetTerm × List Char) :=
  let name := text.takeWhile (· ≠ ':')
  match text.drop name.length with
  | ':' :: ']' :: rest => (asciiSet? (String.ofList name)).map fun members =>
      (.ascii members negated, rest)
  | _ => none

/-- Whether a name is marked as negated, and the name with what is behind it. -/
def splitCaret (text : List Char) : Bool × List Char :=
  if text.head? = some '^' then (true, text.tail) else (false, text)

/-- The set by name that the text starts with. -/
def asciiSetAt? : List Char → Option (SetTerm × List Char)
  | '[' :: ':' :: text => namedSet? (splitCaret text).1 (splitCaret text).2
  | _ => none

/-- What was read and what is left, after a set by name was found or not. -/
def afterSet (s : Cursor) : Option (SetTerm × List Char) → Option SetTerm × Cursor
  | some (term, rest) => (some term, withRest s rest)
  | none => (none, s)

theorem splitCaret_eq (text : List Char) : (match text with
    | '^' :: rest => (true, rest)
    | rest => (false, rest)) = splitCaret text := by
  unfold splitCaret
  split
  · rfl
  · next hcaret =>
    rw [if_neg]
    intro h
    obtain ⟨rest, rfl⟩ := List.head?_eq_some_iff.mp h
    exact hcaret rest rfl

theorem match_of_ne_named {α : Type} {text : List Char} (named : List Char → α) (other : α) :
    (∀ name, text ≠ '[' :: ':' :: name) → (match text with
      | '[' :: ':' :: rest => named rest
      | _ => other) = other := by
  intro h
  split
  · next name => exact absurd rfl (h name)
  · rfl

theorem asciiSetAt?_of_ne {text : List Char} (h : ∀ name, text ≠ '[' :: ':' :: name) :
    asciiSetAt? text = none :=
  match_of_ne_named _ _ h

/-- The part of `readAsciiSet` that is behind the opening and the caret. -/
theorem readNamed_eq (marked : Bool × List Char) (s : Cursor) : (match marked with
    | (negated, text) =>
      let name := text.takeWhile (· ≠ ':')
      match text.drop name.length with
      | ':' :: ']' :: rest =>
          match asciiSet? (String.ofList name) with
          | some members => do
              set { s with rest }
              return some (.ascii members negated)
          | none => return none
      | _ => return none : Reader (Option SetTerm)) s =
    some (afterSet s (namedSet? marked.1 marked.2)) := by
  obtain ⟨negated, text⟩ := marked
  unfold namedSet?
  dsimp only
  split
  · next rest hdrop =>
    rw [hdrop]
    cases asciiSet? (String.ofList (text.takeWhile (· ≠ ':'))) <;> rfl
  · rfl

theorem readAsciiSet_eq (s : Cursor) :
    readAsciiSet s = some (afterSet s (asciiSetAt? s.rest)) := by
  rw [readAsciiSet, get_bind_apply]
  by_cases hrest : ∃ text, s.rest = '[' :: ':' :: text
  · obtain ⟨text, htext⟩ := hrest
    rw [htext]
    exact (readNamed_eq _ s).trans (congrArg (fun marked : Bool × List Char =>
      some (afterSet s (namedSet? marked.1 marked.2))) (splitCaret_eq text))
  · have hne : ∀ name, s.rest ≠ '[' :: ':' :: name := fun name h => hrest ⟨name, h⟩
    rw [asciiSetAt?_of_ne hne]
    exact congrFun (match_of_ne_named _ _ hne) s

theorem namedSet?_append (negated : Bool) (text : List Char) :
    namedSet? negated (text ++ closing) =
      (namedSet? negated text).map fun found => (found.1, found.2 ++ closing) := by
  by_cases hcolon : ':' ∈ text
  · obtain ⟨name, rest, rfl, hname⟩ := List.eq_append_cons_of_mem hcolon
    have hassoc : name ++ ':' :: rest ++ closing = name ++ ':' :: (rest ++ closing) := by simp
    rw [hassoc]
    simp only [namedSet?, takeWhile_sep hname, List.drop_left]
    cases rest with
    | nil => rfl
    | cons c rest =>
        by_cases hc : c = ']'
        · subst hc
          cases asciiSet? (String.ofList name) <;> rfl
        · split
          · next h => simp [hc] at h
          · split
            · next h => simp [hc] at h
            · rfl
  · have hclosing : ':' ∉ text ++ closing := by
      rw [List.mem_append, not_or]
      exact ⟨hcolon, by decide⟩
    simp only [namedSet?, takeWhile_of_not_mem hcolon, takeWhile_of_not_mem hclosing,
      List.drop_length, Option.map_none]

theorem namedSet?_suffix {negated : Bool} {text rest : List Char} {term : SetTerm}
    (h : namedSet? negated text = some (term, rest)) : rest <:+ text := by
  unfold namedSet? at h
  dsimp only at h
  split at h
  · next rest' hdrop =>
    obtain ⟨members, -, heq⟩ := Option.map_eq_some_iff.mp h
    obtain ⟨rfl, rfl⟩ := Prod.mk.inj heq
    have hdropped : rest' <:+ text.drop (text.takeWhile (· ≠ ':')).length :=
      ⟨[':', ']'], hdrop.symm⟩
    exact hdropped.trans (List.drop_suffix _ _)
  · exact absurd h (Option.some_ne_none _).symm

theorem asciiSetAt?_suffix {text rest : List Char} {term : SetTerm}
    (h : asciiSetAt? text = some (term, rest)) : rest <:+ text ∧ rest.length + 1 ≤ text.length := by
  unfold asciiSetAt? at h
  split at h
  · next text =>
    have hmarked : (splitCaret text).2 <:+ text := by
      unfold splitCaret
      split
      · exact List.tail_suffix text
      · exact List.suffix_rfl
    have hrest := (namedSet?_suffix h).trans hmarked
    have hlength := hrest.length_le
    refine ⟨hrest.trans ⟨['[', ':'], rfl⟩, ?_⟩
    rw [List.length_cons, List.length_cons]
    omega
  · exact absurd h (Option.some_ne_none _).symm

theorem splitCaret_append (text : List Char) :
    splitCaret (text ++ closing) = ((splitCaret text).1, (splitCaret text).2 ++ closing) := by
  cases text with
  | nil => rfl
  | cons c text => by_cases hc : c = '^' <;> simp [splitCaret, hc]

theorem asciiSetAt?_append (text : List Char) :
    asciiSetAt? (text ++ closing) =
      (asciiSetAt? text).map fun found => (found.1, found.2 ++ closing) := by
  by_cases hopening : ∃ name, text = '[' :: ':' :: name
  · obtain ⟨name, rfl⟩ := hopening
    simp only [asciiSetAt?, List.cons_append, splitCaret_append]
    exact namedSet?_append _ _
  · rw [asciiSetAt?_of_ne fun name h => hopening ⟨name, h⟩]
    refine asciiSetAt?_of_ne fun name h => ?_
    match text with
    | [] => exact absurd (List.cons.inj h).1 (by decide)
    | [c] => exact absurd (List.cons.inj (List.cons.inj h).2).1 (by decide)
    | c :: d :: text =>
        simp only [List.cons_append, List.cons.injEq] at h
        exact hopening ⟨text, by rw [h.1, h.2.1]⟩

theorem follows_readAsciiSet {b : Nat} : Follows b 0 0 readAsciiSet readAsciiSet := by
  have hsuffix : ∀ s a t, readAsciiSet s = some (a, t) → t.rest <:+ s.rest := by
    intro s a t h
    rw [readAsciiSet_eq] at h
    cases hat : asciiSetAt? s.rest with
    | none =>
        rw [hat] at h
        obtain ⟨rfl, rfl⟩ := result_inj h
        exact List.suffix_rfl
    | some found =>
        rw [hat] at h
        obtain ⟨rfl, rfl⟩ := result_inj h
        exact (asciiSetAt?_suffix hat).1
  refine ⟨hsuffix, fun s a t h _ => (hsuffix s a t h).length_le, fun s u a t _ h _ _ => ?_⟩
  rw [readAsciiSet_eq, withRest_rest, asciiSetAt?_append] at h
  rw [readAsciiSet_eq, withRest_rest]
  cases hat : asciiSetAt? u with
  | none =>
      rw [hat] at h
      obtain ⟨rfl, rfl⟩ := result_inj h
      exact ⟨u, rfl, rfl⟩
  | some found =>
      rw [hat] at h
      obtain ⟨rfl, rfl⟩ := result_inj h
      exact ⟨found.2, rfl, rfl⟩

theorem readAsciiSet_takes {s t : Cursor} {term : SetTerm}
    (h : readAsciiSet s = some (some term, t)) : t.rest.length + 1 ≤ s.rest.length := by
  rw [readAsciiSet_eq] at h
  cases hat : asciiSetAt? s.rest with
  | none =>
      rw [hat] at h
      exact absurd (result_inj h).1 (Option.some_ne_none _).symm
  | some found =>
      rw [hat] at h
      obtain ⟨-, rfl⟩ := result_inj h
      exact (asciiSetAt?_suffix hat).2

section Sets

variable {b : Nat}

theorem follows_readSetItem : FollowsUnless Astray b 0 1 readSetItem readSetItem := by
  refine follows_current.look fun c => .ite (fun _ => follows_readEscape) fun _ => ?_
  exact follows_bump.step fun _ => follows_pure _

/-- The mark that comes after the current character. -/
def mark (extended : Bool) (text : List Char) : Option Char :=
  if extended then firstMark false (text.drop 1) <|> (text.drop 1).head? else (text.drop 1).head?

/-- What keeps a hyphen before it from making a range. -/
def KeepsHyphen (next : Option Char) : Prop := next = some ']' ∨ next = some '-'

instance : DecidablePred KeepsHyphen := fun _ => inferInstanceAs (Decidable (_ ∨ _))

theorem firstMark_append (comment : Bool) (text : List Char) :
    firstMark comment (text ++ closing) = (firstMark comment text <|> some ')') := by
  induction text generalizing comment with
  | nil => cases comment <;> decide
  | cons first text ih =>
      simp only [List.cons_append, firstMark]
      split
      · exact ih _
      · split
        · exact ih _
        · rfl

/-- Before the first mark are only blanks and the beginning of a comment. -/
theorem not_keepsHyphen_head? {text : List Char} (h : firstMark false text = none) :
    ¬ KeepsHyphen text.head? := by
  rintro (hhead | hhead)
  · obtain ⟨rest, rfl⟩ := List.head?_eq_some_iff.mp hhead
    simp [firstMark, show Text.isBlank ']' = false by decide] at h
  · obtain ⟨rest, rfl⟩ := List.head?_eq_some_iff.mp hhead
    simp [firstMark, show Text.isBlank '-' = false by decide] at h

theorem mark_append (extended : Bool) (text : List Char) :
    KeepsHyphen (mark extended (text ++ closing)) ↔ KeepsHyphen (mark extended text) := by
  cases text with
  | nil => cases extended <;> decide
  | cons c text =>
      simp only [mark, List.cons_append, List.drop_succ_cons, List.drop_zero, firstMark_append]
      cases extended with
      | false =>
        cases text with
        | nil => decide
        | cons => rfl
      | true =>
        cases hmark : firstMark false text with
        | some c => rfl
        | none =>
          have hclosing : ¬ KeepsHyphen (some ')') := by decide
          exact iff_of_false hclosing (not_keepsHyphen_head? hmark)

theorem follows_peekMark {α : Type} {stuck : α → Cursor → Prop} {k d : Nat}
    {f f' : Option Char → Reader α} (h : ∀ next, FollowsUnless stuck b k d (f next) (f' next))
    (hend : ∀ next next', (KeepsHyphen next ↔ KeepsHyphen next') → f' next = f' next') :
    FollowsUnless stuck b k d (peekMark >>= f) (peekMark >>= f') where
  suffix s c t hs := (h (mark s.extended s.rest)).suffix s c t hs
  takes s c t hs := (h (mark s.extended s.rest)).takes s c t hs
  agrees s u c t hu hs ht hfree := by
    obtain ⟨v, hv, hs'⟩ := (h (mark s.extended (u ++ closing))).agrees s u c t hu hs ht hfree
    exact ⟨v, hv, (congrFun (hend _ _ (mark_append s.extended u)) _).symm.trans hs'⟩

/-- In a set no boundary may stand, so no boundary leads astray. -/
theorem follows_item {α : Type} {k : Nat} {f f' : Escape → Reader α}
    (hlook : ∀ term s, f (.look term) s = none)
    (hf : ∀ item, Follows (b - 1) k 0 (f item) (f' item)) :
    Follows b k 1 (readSetItem >>= f) (readSetItem >>= f') := by
  refine follows_readSetItem.bindUnless hf ?_ (Nat.le_refl _) (Nat.zero_le _) (Nat.le_refl _)
  rintro _ m ⟨⟨term, rfl⟩, -⟩ c t h _
  exact Option.some_ne_none _ (h.symm.trans (hlook term m))

theorem follows_readSetRange : Follows b 1 1 readSetRange readSetRange := by
  refine follows_item (fun term => ?_) fun item => ?_
  · refine bind_fails fun _ => bind_fails fun c => bind_fails fun next => ?_
    split
    · exact fun _ => rfl
    · refine bind_fails fun _ => bind_fails fun last _ => ?_
      cases last <;> rfl
  refine follows_skipSpace.then fun _ => follows_current.inside fun c => ?_
  refine follows_peekMark (fun next => .ite (fun _ => ?_) fun _ => ?_) fun next next' hnext => ?_
  · cases item with
    | literal l => exact follows_pure _
    | look _ => exact follows_refuse
    | set term => exact follows_pure _
  · refine FollowsUnless.weaken (d := 1) (follows_bumpSpace.step fun _ => ?_)
    refine FollowsUnless.weaken (d := 1) (follows_item (fun term _ => ?_) fun last => ?_)
    · cases item <;> rfl
    · split
      · exact .ite (fun _ => follows_pure _) fun _ => follows_refuse
      · exact follows_refuse
  · exact if_congr (or_congr_right hnext) rfl rfl

theorem follows_readLeadingHyphens (n m : Nat) (done : List SetBody) :
    Follows (m + 1) 1 0 (readLeadingHyphens n done) (readLeadingHyphens (m + 1) done) := by
  induction n generalizing m done with
  | zero => exact follows_refuse
  | succ n ih =>
      refine follows_current.inside fun c => .ite (fun _ => ?_) fun _ => follows_pure _
      refine FollowsUnless.weaken (d := 1) (follows_bumpSpace.step fun _ => ?_)
      exact FollowsUnless.fuel (F := fun m => readLeadingHyphens m _) (fun m => ih m _) m

theorem follows_readSetOpening : Follows b 1 1 readSetOpening readSetOpening := by
  refine follows_bumpSpace.step fun _ => follows_current.inside fun c => ?_
  refine .optional follows_bumpSpace.weaken fun _ => follows_get_fuel fun s s' => ?_
  refine (follows_readLeadingHyphens _ _ _).inside fun items => ?_
  refine follows_current.inside fun c => .ite (fun _ => ?_) fun _ => ?_
  · refine FollowsUnless.weaken (d := 1) (follows_bumpSpace.step fun _ => ?_)
    exact follows_current.inside fun _ => follows_pure _
  · exact follows_current.inside fun _ => follows_pure _

theorem follows_readSet (n m : Nat) (pending : Option (SetOp × SetBody)) (items : List SetBody) :
    Follows (m + 1) 0 1 (readSet n pending items) (readSet (m + 1) pending items) := by
  induction n generalizing m pending items with
  | zero => exact follows_refuse
  | succ n ih =>
      have hlater : ∀ pending items,
          Follows m 0 1 (readSet n pending items) (readSet m pending items) :=
        fun pending items => FollowsUnless.fuel (F := fun m => readSet m pending items)
          (fun m => ih m _ _) m
      have hoperator : ∀ kind, Follows (m + 1) 0 1
          (bump >>= fun _ => bump >>= fun _ => readSet n (some (kind, joinSet pending items)) [])
          (bump >>= fun _ => bump >>= fun _ => readSet m (some (kind, joinSet pending items)) []) :=
        fun _ => follows_bump.step fun _ => follows_bump.weaken.then fun _ => (hlater _ _).weaken
      have hbracket : Follows (m + 1) 0 1
          (readSetOpening >>= fun opening => readSet n none opening.2 >>= fun body =>
            readSet n pending (.bracket opening.1 body :: items))
          (readSetOpening >>= fun opening => readSet m none opening.2 >>= fun body =>
            readSet m pending (.bracket opening.1 body :: items)) :=
        follows_readSetOpening.stepLook fun _ => (hlater _ _).weaken.then fun _ => hlater _ _
      refine follows_skipSpace.then fun _ => follows_get_rest Nat.one_pos (fun s => ?_) ?_
      · dsimp only
        split
        · refine follows_readAsciiSet.bindOn (g := fun found => if found.isSome then 1 else 0)
            ?_ (fun found => ?_) (fun _ _ => False.elim) (Nat.le_refl _) (Nat.zero_le _)
            (Nat.le_add_left _ _)
          · intro s found t h ht
            cases found with
            | none => exact (follows_readAsciiSet (b := 0)).takes s none t h ht
            | some term => exact readAsciiSet_takes h
          · cases found with
            | none => exact hbracket
            | some term => exact hlater _ _
        · exact follows_bump.step fun _ => follows_pure _
        · exact hoperator _
        · exact hoperator _
        · exact hoperator _
        · exact follows_readSetRange.stepLook fun _ => hlater _ _
        · exact follows_refuse
      · intro s c text
        clear ih hlater hoperator hbracket
        cases text with
        | nil =>
            simp only [withRest_rest, closing, List.cons_append, List.nil_append]
            split <;> split <;> first | rfl | grind
        | cons d text =>
            simp only [withRest_rest, List.cons_append]
            split <;> split <;> first | rfl | grind

theorem follows_readBracket : Follows b 0 1 readBracket readBracket :=
  follows_readSetOpening.stepLook fun _ => follows_get_fuel fun _ _ =>
    (follows_readSet _ _ _ _).andReturn _

end Sets

section Openings

variable {b : Nat}

theorem isPrefixOf_append_closing {text : List Char} (h : ')' ∉ text) (u : List Char) :
    text.isPrefixOf (u ++ closing) = text.isPrefixOf u := by
  induction text generalizing u with
  | nil => rfl
  | cons c text ih =>
      obtain ⟨hc, htext⟩ := not_or.mp (mt List.mem_cons.mpr h)
      cases u with
      | nil => simp [closing, List.isPrefixOf, Ne.symm hc]
      | cons first u => simp [List.isPrefixOf, ih htext]

theorem follows_take? {text : List Char} (h : ')' ∉ text) :
    Follows b 0 0 (take? text) (take? text) := by
  have htake : ∀ s, take? text s = some (if text.isPrefixOf s.rest then
      (true, withRest s (s.rest.drop text.length)) else (false, s)) := by
    intro s
    rw [take?, get_bind_apply]
    split <;> rfl
  have hsuffix : ∀ s a t, take? text s = some (a, t) → t.rest <:+ s.rest := by
    intro s a t hs
    rw [htake] at hs
    split at hs
    · obtain ⟨rfl, rfl⟩ := result_inj hs
      exact List.drop_suffix _ _
    · obtain ⟨rfl, rfl⟩ := result_inj hs
      exact List.suffix_rfl
  refine ⟨hsuffix, fun s a t hs _ => (hsuffix s a t hs).length_le, fun s u a t _ hs _ _ => ?_⟩
  rw [htake, withRest_rest, isPrefixOf_append_closing h] at hs
  rw [htake, withRest_rest]
  split at hs
  · next hfront =>
    obtain ⟨rfl, rfl⟩ := result_inj hs
    obtain ⟨rest, rfl⟩ := List.isPrefixOf_iff_prefix.mp hfront
    refine ⟨rest, by simp, ?_⟩
    rw [if_pos hfront, List.drop_left]
    rfl
  · next hfront =>
    obtain ⟨rfl, rfl⟩ := result_inj hs
    exact ⟨u, rfl, by rw [if_neg hfront]; rfl⟩

theorem follows_readFlags (n m : Nat) (seen : List Flag) (cleared dangling : Bool)
    (change : FlagChange) : Follows (m + 1) 1 0 (readFlags n seen cleared dangling change)
      (readFlags (m + 1) seen cleared dangling change) := by
  induction n generalizing m seen cleared dangling change with
  | zero => exact follows_refuse
  | succ n ih =>
      have hlater : ∀ seen cleared dangling change, Follows (m + 1) 1 0
          (bump >>= fun _ => readFlags n seen cleared dangling change)
          (bump >>= fun _ => readFlags m seen cleared dangling change) :=
        fun seen cleared dangling change => FollowsUnless.weaken (d := 1) <|
          follows_bump.step fun _ => FollowsUnless.fuel
            (F := fun m => readFlags m seen cleared dangling change) (fun m => ih m _ _ _ _) m
      refine follows_current.inside fun c =>
        .ite (fun _ => ?_) fun _ => .ite (fun _ => ?_) fun _ => ?_
      · exact .unless fun _ => follows_pure _
      · exact .unless fun _ => hlater _ _ _ _
      · cases flag? c with
        | none => exact follows_refuse
        | some flag => exact .unless fun _ => hlater _ _ _ _

/-- A name that a group can be given when others are taken. -/
def Fresh (names : List (List Char)) : List Char → Prop
  | [] => False
  | first :: others => isNameChar true first ∧ others.all (isNameChar false) ∧
      ¬ names.contains (first :: others)

theorem readGroupName_append {name rest : List Char} {extended : Bool} {names : List (List Char)}
    {t : Cursor} (h : '>' ∉ name) :
    readGroupName ⟨name ++ '>' :: rest, extended, names⟩ = some ((), t) ↔
      Fresh names name ∧ t = ⟨rest, extended, name :: names⟩ := by
  rw [readGroupName, get_bind_apply]
  simp only [takeWhile_sep h, List.drop_left]
  cases name with
  | nil => exact ⟨fun h => absurd h (Option.some_ne_none _).symm, fun h => h.1.elim⟩
  | cons first others =>
      change (if _ then _ else _ : Reader Unit) _ = _ ↔ _
      split
      · next hfresh =>
        constructor
        · intro h
          exact ⟨hfresh, (result_inj h).2.symm⟩
        · rintro ⟨-, rfl⟩
          rfl
      · next hfresh =>
        exact ⟨fun h => absurd h (Option.some_ne_none _).symm, fun h => absurd h.1 hfresh⟩

theorem readGroupName_eq_some_iff {s t : Cursor} : readGroupName s = some ((), t) ↔
    ∃ name rest, s.rest = name ++ '>' :: rest ∧ '>' ∉ name ∧ Fresh s.names name ∧
      t = ⟨rest, s.extended, name :: s.names⟩ := by
  obtain ⟨text, extended, names⟩ := s
  constructor
  · intro h
    by_cases hmem : '>' ∈ text
    · obtain ⟨name, rest, rfl, hname⟩ := List.eq_append_cons_of_mem hmem
      obtain ⟨hfresh, rfl⟩ := (readGroupName_append hname).mp h
      exact ⟨name, rest, rfl, hname, hfresh, rfl⟩
    · rw [readGroupName, get_bind_apply] at h
      simp only [takeWhile_of_not_mem hmem, List.drop_length] at h
      exact absurd h (Option.some_ne_none _).symm
  · rintro ⟨name, rest, rfl, hname, hfresh, rfl⟩
    exact (readGroupName_append hname).mpr ⟨hfresh, rfl⟩

theorem follows_readGroupName : Follows b 0 0 readGroupName readGroupName where
  suffix s a t h := by
    obtain ⟨name, rest, hrest, -, -, rfl⟩ := readGroupName_eq_some_iff.mp h
    exact ⟨name ++ ['>'], by simp [hrest]⟩
  takes s a t h _ := by
    obtain ⟨name, rest, hrest, -, -, rfl⟩ := readGroupName_eq_some_iff.mp h
    simp [hrest]
    omega
  agrees s u a t _ h ht _ := by
    obtain ⟨name, rest, hrest, hname, hfresh, rfl⟩ := readGroupName_eq_some_iff.mp h
    have hfront : u ++ closing = (name ++ ['>']) ++ rest := by simpa using hrest
    obtain ⟨v, rfl, rfl⟩ := exists_of_append_closing hfront ht
    exact ⟨v, rfl, readGroupName_eq_some_iff.mpr ⟨name, v, by simp, hname, hfresh, rfl⟩⟩

theorem follows_readOpening : Follows b 0 1 readOpening readOpening := by
  refine follows_bump.step fun _ => follows_skipSpace.then fun _ => ?_
  refine (follows_take? (by decide)).then fun _ => ?_
  refine (follows_take? (by decide)).then fun _ => .unless fun _ => ?_
  refine (follows_take? (by decide)).then fun _ => ?_
  refine (follows_take? (by decide)).then fun _ => .unless fun _ => ?_
  refine (follows_take? (by decide)).then fun _ => .ite (fun _ => ?_) fun _ => ?_
  · exact follows_readGroupName.andReturn _
  refine (follows_take? (by decide)).then fun _ => .ite (fun _ => ?_) fun _ => ?_
  · exact follows_readGroupName.andReturn _
  refine (follows_take? (by decide)).then fun _ => .ite (fun _ => ?_) fun _ => follows_pure _
  refine FollowsUnless.weaken (d := 1) (follows_get_fuel fun s s' => ?_)
  refine (follows_readFlags _ _ _ _ _ _).look fun flags => follows_current.look fun c => ?_
  refine follows_bump.step fun _ => .ite (fun _ => ?_) fun _ => follows_pure _
  exact .unless fun _ => follows_pure _

end Openings

section Counts

variable {b : Nat}

theorem dropWhile_isBlank_append (u : List Char) :
    (u ++ closing).dropWhile Text.isBlank = u.dropWhile Text.isBlank ++ closing := by
  induction u with
  | nil => decide
  | cons c u ih =>
      simp only [List.cons_append, List.dropWhile_cons]
      split
      · exact ih
      · rfl

theorem follows_dropBlanks :
    Follows b 0 0 (modify fun s => { s with rest := s.rest.dropWhile Text.isBlank } : Reader Unit)
      (modify fun s => { s with rest := s.rest.dropWhile Text.isBlank }) :=
  follows_drop (g := fun _ u => u.dropWhile Text.isBlank) (fun _ => rfl)
    (fun _ _ => List.dropWhile_suffix _) (fun _ _ _ => (List.dropWhile_suffix _).length_le)
    (fun _ u _ => dropWhile_isBlank_append u)

section Digits

open readCount

theorem follows_digits_succ {n m : Nat} (done : List Char)
    (h : ∀ done, Follows (b - 1) 0 0 (digits n done) (digits m done)) :
    Follows b 0 0 (digits (n + 1) done) (digits (m + 1) done) := by
  refine follows_peek (fun c => ?_) rfl
  cases c with
  | none => exact follows_pure _
  | some c =>
      refine .ite (fun _ => ?_) fun _ => follows_pure _
      exact FollowsUnless.weaken (d := 1) (follows_bumpSpace.step fun _ => h _)

theorem follows_digits_zero (n : Nat) (done : List Char) :
    Follows 0 0 0 (digits n done) (digits n done) := by
  induction n generalizing done with
  | zero => exact follows_pure _
  | succ n ih => exact follows_digits_succ done ih

/-- Digits are read as far as the fuel lasts, which is more for the longer text. -/
theorem follows_digits (m : Nat) (done : List Char) :
    Follows m 0 0 (digits (m + closing.length) done) (digits m done) := by
  induction m generalizing done with
  | zero => exact (follows_digits_zero _ _).zero _
  | succ m ih => exact follows_digits_succ done ih

end Digits

theorem follows_readCount : Follows b 0 0 readCount readCount := by
  refine follows_dropBlanks.then fun _ => follows_get_length
    (fun s => (follows_digits_zero _ _).then fun written => ?_) fun s s' hs => ?_
  on_goal 2 =>
    rw [hs, Nat.add_right_comm]
    refine (follows_digits _ _).then fun written => ?_
  all_goals
    refine follows_dropBlanks.then fun _ => .ite (fun _ => follows_pure _) fun _ => ?_
    exact .ite (fun _ => follows_pure _) fun _ => follows_refuse

theorem follows_skipLazy : Follows b 0 0 skipLazy skipLazy :=
  follows_peek (fun _ => .ite (fun _ => follows_bump.weaken) fun _ => follows_pure _) rfl

theorem exists_readCounts_eq : ∃ R : Unit → Reader (Nat × Option Nat),
    readCounts = bumpSpace >>= R ∧ ∀ b a, Follows b 0 1 (R a) (R a) := by
  refine ⟨_, rfl, fun b _ => ?_⟩
  refine FollowsUnless.then follows_readCount fun least => follows_current.look fun c => ?_
  extract_lets jp
  have hjp : ∀ b bounds, Follows b 0 1 (jp bounds) (jp bounds) := by
    rintro b ⟨least, most⟩
    refine follows_current.look fun c => .unless fun _ => follows_bumpSpace.step fun _ => ?_
    refine follows_skipLazy.then fun _ => ?_
    cases most with
    | none => exact follows_pure _
    | some most => exact .ite (fun _ => follows_pure _) fun _ => follows_refuse
  have hgiven : ∀ b bounds, Follows b 0 1 (pure bounds >>= jp) (pure bounds >>= jp) :=
    fun b bounds => FollowsUnless.then (follows_pure bounds) (hjp b)
  have hrefused : ∀ b (R : Reader (Nat × Option Nat)), Follows b 0 1 (refuse >>= jp) R :=
    fun _ _ => follows_of_fails fun _ => rfl
  refine .ite (fun _ => ?_) fun _ => ?_
  · refine FollowsUnless.then follows_bumpSpace.weaken fun _ => ?_
    cases least with
    | none => exact hrefused _ _
    | some least =>
        refine follows_current.look fun c => .ite (fun _ => hgiven _ _) fun _ => ?_
        refine FollowsUnless.then follows_readCount fun most => ?_
        cases most with
        | none => exact hrefused _ _
        | some most => exact hgiven _ _
  · cases least with
    | none => exact hrefused _ _
    | some count => exact hgiven _ _

theorem follows_readCounts : Follows b 0 1 readCounts readCounts := by
  obtain ⟨R, hread, hR⟩ := exists_readCounts_eq
  rw [hread]
  exact FollowsUnless.then follows_bumpSpace.weaken fun a => hR b a

end Counts

end NamespacePolicy.Proofs.RegexParts
