import NamespacePolicy.Proofs.Readers
import NamespacePolicy.Proofs.RegexParts
import NamespacePolicy.Regex.Compile

/-!
What stands in parentheses is read as it is read alone, unless it closes the parentheses itself.
And whatever is read, its counts are in order.
-/

namespace NamespacePolicy.Proofs.RegexGroups

open Regex Reader Unicode Readers RegexReading RegexParts

section Alternatives

variable {b : Nat}

theorem follows_setExtended (g : Bool → Bool) :
    Follows b 0 0 (modify fun s => { s with extended := g s.extended } : Reader Unit)
      (modify fun s => { s with extended := g s.extended }) where
  suffix s a t h := by
    obtain ⟨-, rfl⟩ := result_inj h
    exact List.suffix_rfl
  takes s a t h _ := by
    obtain ⟨-, rfl⟩ := result_inj h
    exact Nat.le_refl _
  agrees s u a t _ h _ _ := by
    obtain ⟨-, rfl⟩ := result_inj h
    exact ⟨u, rfl, rfl⟩

theorem follows_repeatLast (items : List Source) (min : Nat) (max : Option Nat) :
    Follows b 0 0 (repeatLast items min max) (repeatLast items min max) := by
  unfold repeatLast
  split
  · exact follows_refuse
  · exact follows_refuse
  · exact follows_refuse
  · exact follows_pure _

/-- After a brace that counts nothing an expression does not come to its closing. -/
theorem readAlternatives_cornered {n : Nat} {done items : List Source} {s t : Cursor} {a : Source}
    (hn : ∀ items s a t, readAlternatives n done items s = some (a, t) → t.rest <:+ s.rest)
    (hs : Cornered s) (h : readAlternatives (n + 1) done items s = some (a, t)) :
    t.rest.length < closing.length := by
  obtain ⟨hbrace, hcorner⟩ := hs
  have hskip : skipSpace s = some ((), s) := by
    obtain ⟨rest, extended, names⟩ := s
    obtain ⟨rest, rfl⟩ := List.head?_eq_some_iff.mp hbrace
    have hdrop : dropSpace false ('\x7b' :: rest) = '\x7b' :: rest := by
      simp [dropSpace, show Text.isBlank '\x7b' = false by decide]
    cases extended with
    | false => rfl
    | true => exact congrArg (fun rest => some ((), Cursor.mk rest true names)) hdrop
  obtain ⟨⟨⟩, _, hm, h⟩ := bind_eq_some_iff.mp h
  obtain ⟨-, rfl⟩ := result_inj (hskip.symm.trans hm)
  obtain ⟨c, _, hm, h⟩ := bind_eq_some_iff.mp h
  obtain ⟨rfl, rfl⟩ := result_inj hm
  rw [hbrace] at h
  change (if items.isEmpty = true then refuse >>= _ else _ : Reader Source) s = some (a, t) at h
  split at h
  · exact absurd h (Option.some_ne_none _).symm
  obtain ⟨bounds, m₁, hcounts, h⟩ := bind_eq_some_iff.mp h
  obtain ⟨items, m₂, hlast, h⟩ := bind_eq_some_iff.mp h
  obtain ⟨R, hread, hR⟩ := exists_readCounts_eq
  rw [hread] at hcounts
  obtain ⟨⟨⟩, m, hm, hcounts⟩ := bind_eq_some_iff.mp hcounts
  have hroom := hcorner m hm
  have htakes := (hR 0 ()).takes m bounds m₁ hcounts
  have hsuffix := (hn _ _ _ _ h).length_le
  have hsuffixLast := ((follows_repeatLast (b := 0) _ _ _).suffix m₁ _ m₂ hlast).length_le
  omega

/-- A boundary that misses its name leaves the reader in front of a brace, where the text alone is
refused and the longer text still has to be; so both are carried through the text. -/
theorem follows_readAlternatives_and_cornered (n m : Nat) (done items : List Source) :
    Follows (m + 1) 0 0 (readAlternatives n done items) (readAlternatives (m + 1) done items) ∧
      ∀ s a t, Cornered s → readAlternatives n done items s = some (a, t) →
        t.rest.length < closing.length := by
  induction n generalizing m done items with
  | zero => exact ⟨follows_refuse, fun _ _ _ _ h => absurd h (Option.some_ne_none _).symm⟩
  | succ n ih =>
      refine ⟨?_, fun s a t hs h => readAlternatives_cornered
        (fun items s a t h => (ih 0 done items).1.suffix s a t h) hs h⟩
      have hlater : ∀ done items,
          Follows m 0 0 (readAlternatives n done items) (readAlternatives m done items) :=
        fun done items => FollowsUnless.fuel (F := fun m => readAlternatives m done items)
          (fun m => (ih m _ _).1) m
      have htimes : ∀ min max, Follows (m + 1) 0 0
          (repeatLast items min max >>= fun items => bump >>= fun _ => skipLazy >>= fun _ =>
            readAlternatives n done items)
          (repeatLast items min max >>= fun items => bump >>= fun _ => skipLazy >>= fun _ =>
            readAlternatives m done items) := by
        intro min max
        refine (follows_repeatLast items min max).then fun items => FollowsUnless.weaken (d := 1) ?_
        exact follows_bump.step fun _ => follows_skipLazy.then fun _ => hlater _ _
      refine follows_skipSpace.then fun _ => follows_peek (fun c => ?_) rfl
      split
      · exact follows_pure _
      · exact follows_pure _
      · exact FollowsUnless.weaken (d := 1) (follows_bump.step fun _ => hlater _ _)
      · refine follows_get fun s s' hs => ?_
        dsimp only
        rw [hs]
        refine FollowsUnless.weaken (d := 1) (follows_readOpening.step fun opening => ?_)
        cases opening with
        | directive change =>
            exact (follows_setExtended fun extended => change.extended.getD extended).then
              fun _ => hlater _ _
        | group remembered change =>
            refine (follows_setExtended fun _ => change.extended.getD s.extended).then fun _ => ?_
            refine FollowsUnless.then (hlater _ _) fun body => ?_
            refine FollowsUnless.weaken (d := 1) (follows_peek_taking Nat.one_pos fun c => ?_)
            refine .unless fun _ => (follows_setExtended fun _ => s.extended).then fun _ => ?_
            -- the parenthesis that closes the group was in the text
            exact follows_bump.step fun _ =>
              (hlater _ _).mono (Nat.sub_le _ _) (Nat.le_refl _) (Nat.le_refl _)
      · exact FollowsUnless.weaken (d := 1) (follows_readBracket.step fun set => hlater _ _)
      · exact htimes _ _
      · exact htimes _ _
      · exact htimes _ _
      · refine .unless fun _ => FollowsUnless.weaken (d := 1) ?_
        refine follows_readCounts.step fun bounds => ?_
        exact (follows_repeatLast _ _ _).then fun _ => hlater _ _
      · refine FollowsUnless.weaken (d := 1) (follows_readEscape.bindUnless
          (fun item => hlater _ _) ?_ (Nat.le_refl _) (Nat.zero_le _) (Nat.le_refl _))
        rintro item s ⟨-, hs⟩ a t h ht
        have hshort := (ih 0 _ _).2 s a t hs h
        omega
      · exact FollowsUnless.weaken (d := 1) (follows_bump.step fun _ => hlater _ _)

theorem follows_readAlternatives (n m : Nat) (done items : List Source) :
    Follows (m + 1) 0 0 (readAlternatives n done items) (readAlternatives (m + 1) done items) :=
  (follows_readAlternatives_and_cornered n m done items).1

end Alternatives

theorem yields_refuse {α : Type} {P : α → Prop} : Yields P (refuse : Reader α) :=
  fun _ _ _ h => absurd h (Option.some_ne_none _).symm

theorem yields_bind_refuse {α β : Type} {P : β → Prop} (f : α → Reader β) :
    Yields P (refuse >>= f) :=
  fun _ _ _ h => absurd h (Option.some_ne_none _).symm

/-- The least number of copies is not above the most. -/
def InOrder (least : Nat) (most : Option Nat) : Prop := ∀ bound, most = some bound → least ≤ bound

/-- All repetitions of a written expression are in order. -/
def Counted : Source → Prop
  | .group _ _ body => Counted body
  | .times body least most => Counted body ∧ InOrder least most
  | .append a b | .either a b => Counted a ∧ Counted b
  | _ => True

theorem counted_sequence {items : List Source} (h : ∀ item ∈ items, Counted item) :
    Counted (Source.sequence items) := by
  induction items with
  | nil => trivial
  | cons first rest ih =>
      obtain ⟨hfirst, hrest⟩ := List.forall_mem_cons.mp h
      cases rest with
      | nil => exact hfirst
      | cons second rest => exact ⟨hfirst, ih hrest⟩

theorem counted_alternatives {items : List Source} (h : ∀ item ∈ items, Counted item) :
    Counted (Source.alternatives items) := by
  induction items with
  | nil => trivial
  | cons first rest ih =>
      obtain ⟨hfirst, hrest⟩ := List.forall_mem_cons.mp h
      cases rest with
      | nil => exact hfirst
      | cons second rest => exact ⟨hfirst, ih hrest⟩

theorem yields_readCounts : Yields (fun counts => InOrder counts.1 counts.2) readCounts := by
  refine yields_bind fun _ => yields_bind fun least => yields_bind fun c => ?_
  extract_lets jp
  have hjp : ∀ bounds, Yields (fun counts : Nat × Option Nat => InOrder counts.1 counts.2)
      (jp bounds) := by
    rintro ⟨least, most⟩
    refine yields_bind fun c => .ite (yields_bind_refuse _) ?_
    refine yields_bind fun _ => yields_bind fun _ => ?_
    cases most with
    | none => exact yields_pure fun _ h => absurd h (Option.some_ne_none _).symm
    | some most =>
        dsimp only
        split
        · next hle =>
          refine yields_pure fun bound h => ?_
          obtain rfl := Option.some.inj h
          exact hle
        · exact yields_refuse
  refine .ite (yields_bind fun _ => ?_) ?_
  · cases least with
    | none => exact yields_bind hjp
    | some least =>
        refine yields_bind fun c => .ite (yields_bind hjp) (yields_bind fun most => ?_)
        cases most with
        | none => exact yields_bind hjp
        | some most => exact yields_bind hjp
  · cases least with
    | none => exact yields_bind hjp
    | some count => exact yields_bind hjp

theorem yields_repeatLast {items : List Source} {least : Nat} {most : Option Nat}
    (hitems : ∀ item ∈ items, Counted item) (hcounts : InOrder least most) :
    Yields (fun items => ∀ item ∈ items, Counted item) (repeatLast items least most) := by
  unfold repeatLast
  split
  · exact yields_refuse
  · exact yields_refuse
  · exact yields_refuse
  · next item rest _ _ =>
    obtain ⟨hitem, hrest⟩ := List.forall_mem_cons.mp hitems
    exact yields_pure (List.forall_mem_cons.mpr ⟨⟨hitem, hcounts⟩, hrest⟩)

theorem yields_readAlternatives (n : Nat) {done items : List Source}
    (hdone : ∀ item ∈ done, Counted item) (hitems : ∀ item ∈ items, Counted item) :
    Yields Counted (readAlternatives n done items) := by
  induction n generalizing done items with
  | zero => exact yields_refuse
  | succ n ih =>
      have hsequence : ∀ item ∈ Source.sequence items.reverse :: done, Counted item :=
        List.forall_mem_cons.mpr
          ⟨counted_sequence fun item h => hitems item (List.mem_reverse.mp h), hdone⟩
      have hend : Yields Counted
          (pure (Source.alternatives ((Source.sequence items.reverse :: done).reverse)) :
            Reader Source) :=
        yields_pure (counted_alternatives fun item h => hsequence item (List.mem_reverse.mp h))
      have hlater : ∀ {item}, Counted item →
          Yields Counted (readAlternatives n done (item :: items)) :=
        fun hitem => ih hdone (List.forall_mem_cons.mpr ⟨hitem, hitems⟩)
      have htimes : ∀ least most, InOrder least most → Yields Counted
          (repeatLast items least most >>= fun items => bump >>= fun _ => skipLazy >>= fun _ =>
            readAlternatives n done items) :=
        fun least most hcounts => (yields_repeatLast hitems hcounts).bind fun _ hitems =>
          yields_bind fun _ => yields_bind fun _ => ih hdone hitems
      refine yields_bind fun _ => yields_bind fun c => ?_
      split
      · exact hend
      · exact hend
      · exact yields_bind fun _ => ih hsequence (List.forall_mem_nil _)
      · refine yields_bind fun s => yields_bind fun opening => ?_
        cases opening with
        | directive change => exact yields_bind fun _ => hlater trivial
        | group remembered change =>
            refine yields_bind fun _ => ?_
            refine (ih (List.forall_mem_nil _) (List.forall_mem_nil _)).bind fun body hbody => ?_
            refine yields_bind fun c => .ite (yields_bind_refuse _) ?_
            exact yields_bind fun _ => yields_bind fun _ => hlater hbody
      · have hbracket : Yields Counted readBracket :=
          yields_bind fun _ => yields_bind fun _ => yields_bind fun _ => yields_pure trivial
        exact hbracket.bind fun _ => hlater
      · exact htimes _ _ fun _ _ => Nat.zero_le _
      · exact htimes _ _ fun _ _ => Nat.zero_le _
      · exact htimes _ _ fun _ h => absurd h (Option.some_ne_none _).symm
      · refine .ite (yields_bind_refuse _) ?_
        refine yields_readCounts.bind fun counts hcounts => ?_
        exact (yields_repeatLast hitems hcounts).bind fun _ hitems => ih hdone hitems
      · refine yields_bind fun item => hlater ?_
        cases item <;> trivial
      · refine yields_bind fun _ => hlater ?_
        split <;> trivial

end NamespacePolicy.Proofs.RegexGroups
