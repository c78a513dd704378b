import Mathlib.Data.List.Basic
import NamespacePolicy.Regex.Reader

/-!
Reading a text in front of a closing parenthesis.  A reader that stops before the parenthesis reads
there what it reads of the text alone, although it peeks at characters, skips comments and is given
more fuel.  How far before the parenthesis it has to stop and how much it takes is kept beside that,
so that readers can be put together.
-/

namespace NamespacePolicy.Proofs.RegexReading

open Regex Reader Unicode

/-- What stands behind the text. -/
def closing : List Char := [')', '$']

/-- The cursor with another text to read. -/
def withRest (s : Cursor) (rest : List Char) : Cursor := { s with rest }

/-- Where the rest of a text comes before its closing. -/
theorem exists_of_append_closing {u front rest : List Char} (h : u ++ closing = front ++ rest)
    (hrest : closing.length ≤ rest.length) : ∃ v, rest = v ++ closing ∧ u = front ++ v := by
  obtain ⟨v, rfl, hclosing⟩ | ⟨v, rfl, rfl⟩ := List.append_eq_append_iff.mp h
  · obtain rfl : v = [] := by
      have hlength := congrArg List.length hclosing
      rw [List.length_append] at hlength
      exact List.length_eq_zero_iff.mp (by omega)
    exact ⟨[], hclosing.symm, by simp⟩
  · exact ⟨v, rfl, rfl⟩

section Over

variable (s : Cursor) (u v : List Char)

@[simp] theorem withRest_rest : (withRest s u).rest = u := rfl

end Over

/-- What `R` reads of a text with `)$` behind it, `R'` reads of the text alone, if it is shorter
than `bound`: always if `R` stops `slack` characters before the parenthesis or earlier, and does not
get `stuck` there.  It takes `taken` characters at least. -/
structure FollowsUnless {α : Type} (stuck : α → Cursor → Prop) (bound slack taken : Nat)
    (R R' : Reader α) : Prop where
  suffix : ∀ s a t, R s = some (a, t) → t.rest <:+ s.rest
  takes : ∀ s a t, R s = some (a, t) → closing.length ≤ t.rest.length →
    t.rest.length + taken ≤ s.rest.length
  agrees : ∀ s u a t, u.length < bound → R (withRest s (u ++ closing)) = some (a, t) →
    closing.length + slack ≤ t.rest.length → ¬ stuck a t →
      ∃ v, t.rest = v ++ closing ∧ R' (withRest s u) = some (a, withRest t v)

/-- Following without exception. -/
abbrev Follows {α : Type} : (bound slack taken : Nat) → (R R' : Reader α) → Prop :=
  FollowsUnless fun _ _ => False

section Rules

variable {α β : Type} {b k d k₁ d₁ k₂ d₂ : Nat} {R R' S S' : Reader α} {f f' : α → Reader β}
  {stuckFirst : α → Cursor → Prop} {stuck : β → Cursor → Prop} {P P' Q Q' : Reader β}

theorem result_inj {σ : Type} {a a' : α} {s t : σ} (h : some (a, s) = some (a', t)) :
    a = a' ∧ s = t :=
  Prod.mk.inj (Option.some.inj h)

theorem bind_eq_some_iff {s t : Cursor} {c : β} :
    (R >>= f) s = some (c, t) ↔ ∃ a m, R s = some (a, m) ∧ f a m = some (c, t) := by
  change (R s).bind (fun p => f p.1 p.2) = some (c, t) ↔ _
  rw [Option.bind_eq_some_iff]
  constructor
  · rintro ⟨⟨a, m⟩, hR, hf⟩
    exact ⟨a, m, hR, hf⟩
  · rintro ⟨a, m, hR, hf⟩
    exact ⟨(a, m), hR, hf⟩

theorem follows_pure (a : β) : FollowsUnless stuck b k 0 (pure a) (pure a) where
  suffix s c t h := by
    obtain ⟨rfl, rfl⟩ := result_inj h
    exact List.suffix_rfl
  takes s c t h _ := by
    obtain ⟨rfl, rfl⟩ := result_inj h
    exact Nat.le_refl _
  agrees s u c t _ h _ _ := by
    obtain ⟨rfl, rfl⟩ := result_inj h
    exact ⟨u, rfl, rfl⟩

theorem bind_fails (h : ∀ a s, f a s = none) (s : Cursor) : (R >>= f) s = none := by
  by_contra hs
  obtain ⟨⟨c, t⟩, hc⟩ := Option.ne_none_iff_exists'.mp hs
  obtain ⟨a, m, -, ha⟩ := bind_eq_some_iff.mp hc
  exact absurd (ha.symm.trans (h a m)) (Option.some_ne_none _)

theorem get_bind_apply {f : Cursor → Reader β} (s : Cursor) : (get >>= f) s = f s s := rfl

/-- One reader after the other, where how much the first one takes may depend on what it reads. -/
theorem FollowsUnless.bindOn {g : α → Nat} (hR : FollowsUnless stuckFirst b k₁ d₁ R R')
    (htaken : ∀ s a t, R s = some (a, t) → closing.length ≤ t.rest.length →
      t.rest.length + g a ≤ s.rest.length)
    (hf : ∀ a, FollowsUnless stuck (b - g a) k₂ d₂ (f a) (f' a))
    (hstuck : ∀ a m, stuckFirst a m → ∀ c t, f a m = some (c, t) →
      closing.length + k ≤ t.rest.length → stuck c t)
    (hk : k₂ ≤ k) (hk₁ : k₁ ≤ k + d₂) (hd : d ≤ d₁ + d₂) :
    FollowsUnless stuck b k d (R >>= f) (R' >>= f') where
  suffix s c t h := by
    obtain ⟨a, m, ha, hc⟩ := bind_eq_some_iff.mp h
    exact ((hf a).suffix m c t hc).trans (hR.suffix s a m ha)
  takes s c t h ht := by
    obtain ⟨a, m, ha, hc⟩ := bind_eq_some_iff.mp h
    have hlast := (hf a).takes m c t hc ht
    have hfirst := hR.takes s a m ha (by omega)
    omega
  agrees s u c t hu h ht hfree := by
    obtain ⟨a, m, ha, hc⟩ := bind_eq_some_iff.mp h
    have hlast := (hf a).takes m c t hc (by omega)
    have hmoving : ¬ stuckFirst a m := fun hm => hfree (hstuck a m hm c t hc ht)
    obtain ⟨v, hv, ha'⟩ := hR.agrees s u a m hu ha (by omega) hmoving
    have hfirst := htaken _ a m ha (by omega)
    have hlength : v.length < b - g a := by
      simp only [hv, withRest_rest, List.length_append] at hfirst
      omega
    obtain ⟨w, hw, hc'⟩ := (hf a).agrees m v c t hlength (by rwa [← hv]) (by omega) hfree
    exact ⟨w, hw, bind_eq_some_iff.mpr ⟨a, _, ha', hc'⟩⟩

theorem FollowsUnless.bindUnless (hR : FollowsUnless stuckFirst b k₁ d₁ R R')
    (hf : ∀ a, FollowsUnless stuck (b - d₁) k₂ d₂ (f a) (f' a))
    (hstuck : ∀ a m, stuckFirst a m → ∀ c t, f a m = some (c, t) →
      closing.length + k ≤ t.rest.length → stuck c t)
    (hk : k₂ ≤ k) (hk₁ : k₁ ≤ k + d₂) (hd : d ≤ d₁ + d₂) :
    FollowsUnless stuck b k d (R >>= f) (R' >>= f') :=
  hR.bindOn hR.takes hf hstuck hk hk₁ hd

theorem FollowsUnless.bind (hR : Follows b k₁ d₁ R R')
    (hf : ∀ a, FollowsUnless stuck (b - d₁) k₂ d₂ (f a) (f' a)) (hk : k₂ ≤ k) (hk₁ : k₁ ≤ k + d₂)
    (hd : d ≤ d₁ + d₂) : FollowsUnless stuck b k d (R >>= f) (R' >>= f') :=
  hR.bindUnless hf (fun _ _ => False.elim) hk hk₁ hd

theorem FollowsUnless.then (hR : Follows b 0 0 R R')
    (hf : ∀ a, FollowsUnless stuck b k d (f a) (f' a)) :
    FollowsUnless stuck b k d (R >>= f) (R' >>= f') :=
  hR.bind hf (Nat.le_refl _) (Nat.zero_le _) (Nat.le_add_left _ _)

/-- After a character was taken the text is shorter. -/
theorem FollowsUnless.step (hR : Follows b 0 1 R R')
    (hf : ∀ a, FollowsUnless stuck (b - 1) k 0 (f a) (f' a)) :
    FollowsUnless stuck b k 1 (R >>= f) (R' >>= f') :=
  hR.bind hf (Nat.le_refl _) (Nat.zero_le _) (Nat.le_refl _)

/-- Looking at a character does no harm if it is taken afterwards. -/
theorem FollowsUnless.look (hR : Follows b 1 0 R R')
    (hf : ∀ a, FollowsUnless stuck b k 1 (f a) (f' a)) :
    FollowsUnless stuck b k 1 (R >>= f) (R' >>= f') :=
  hR.bind hf (Nat.le_refl _) (Nat.le_add_left _ _) (Nat.le_refl _)

/-- Nor does it if the reader stops before the last character. -/
theorem FollowsUnless.inside (hR : Follows b 1 0 R R')
    (hf : ∀ a, FollowsUnless stuck b 1 d (f a) (f' a)) :
    FollowsUnless stuck b 1 d (R >>= f) (R' >>= f') :=
  hR.bind hf (Nat.le_refl _) (Nat.le_add_right _ _) (Nat.le_add_left _ _)

theorem FollowsUnless.andReturn (hR : Follows b k d R R') (g : α → β) :
    FollowsUnless stuck b k d (R >>= fun a => pure (g a)) (R' >>= fun a => pure (g a)) :=
  hR.bind (fun a => follows_pure (g a)) (Nat.le_refl _) (Nat.le_add_right _ _) (Nat.le_refl _)

/-- A reader may take a character and look at the next one, if that is taken afterwards. -/
theorem FollowsUnless.stepLook (hR : Follows b 1 1 R R')
    (hf : ∀ a, FollowsUnless stuck (b - 1) k 1 (f a) (f' a)) :
    FollowsUnless stuck b k 1 (R >>= f) (R' >>= f') :=
  hR.bind hf (Nat.le_refl _) (Nat.le_add_left _ _) (Nat.le_add_right _ _)

theorem FollowsUnless.mono {b' k' d' : Nat} (h : FollowsUnless stuck b k d P P') (hb : b' ≤ b)
    (hk : k ≤ k') (hd : d' ≤ d) : FollowsUnless stuck b' k' d' P P' where
  suffix := h.suffix
  takes s a t ha ht := by
    have htaken := h.takes s a t ha ht
    omega
  agrees s u a t hu ha ht := h.agrees s u a t (by omega) ha (by omega)

theorem FollowsUnless.weaken (h : FollowsUnless stuck b k d P P') :
    FollowsUnless stuck b k 0 P P' :=
  h.mono (Nat.le_refl _) (Nat.le_refl _) (Nat.zero_le _)

/-- Under the bound zero nothing has to agree. -/
theorem FollowsUnless.zero (h : FollowsUnless stuck b k d P P') (Q : Reader β) :
    FollowsUnless stuck 0 k d P Q :=
  ⟨h.suffix, h.takes, fun _ _ _ _ hu => absurd hu (Nat.not_lt_zero _)⟩

/-- Fuel for a text of the length of the bound is enough. -/
theorem FollowsUnless.fuel {F : Nat → Reader β}
    (h : ∀ m, FollowsUnless stuck (m + 1) k d P (F (m + 1))) (m : Nat) :
    FollowsUnless stuck m k d P (F m) := by
  cases m with
  | zero => exact (h 0).zero _
  | succ m => exact h m

theorem follows_of_fails (h : ∀ s, P s = none) : FollowsUnless stuck b k d P P' where
  suffix s _ _ hs := absurd (hs.symm.trans (h s)) (Option.some_ne_none _)
  takes s _ _ hs _ := absurd (hs.symm.trans (h s)) (Option.some_ne_none _)
  agrees _ _ _ _ _ hs _ := absurd (hs.symm.trans (h _)) (Option.some_ne_none _)

theorem follows_refuse : FollowsUnless stuck b k d (refuse : Reader β) P' :=
  follows_of_fails fun _ => rfl

theorem FollowsUnless.ite {c : Prop} [Decidable c] (h : c → FollowsUnless stuck b k d P P')
    (hn : ¬ c → FollowsUnless stuck b k d Q Q') :
    FollowsUnless stuck b k d (if c then P else Q) (if c then P' else Q') := by
  split
  · next hc => exact h hc
  · next hc => exact hn hc

/-- A reader that refuses some cases follows if it does in the others. -/
theorem FollowsUnless.unless {c : Prop} [Decidable c] {g g' : α → Reader β}
    (h : ¬ c → FollowsUnless stuck b k d P P') :
    FollowsUnless stuck b k d (if c then refuse >>= g else P) (if c then refuse >>= g' else P') :=
  .ite (fun _ => follows_of_fails fun _ => rfl) h

theorem FollowsUnless.optional {c : Prop} [Decidable c] {R R' : Reader Unit}
    {f f' : Unit → Reader β} (hR : Follows b 0 0 R R')
    (hf : ∀ a, FollowsUnless stuck b k d (f a) (f' a)) :
    FollowsUnless stuck b k d (if c then R >>= f else f ()) (if c then R' >>= f' else f' ()) :=
  .ite (fun _ => hR.then hf) fun _ => hf ()

/-- Readers may see the state they start in, apart from the text. -/
theorem follows_get {f f' : Cursor → Reader β}
    (h : ∀ s s', s'.extended = s.extended → FollowsUnless stuck b k d (f s) (f' s')) :
    FollowsUnless stuck b k d (get >>= f) (get >>= f') where
  suffix s c t hs := (h s s rfl).suffix s c t hs
  takes s c t hs := (h s s rfl).takes s c t hs
  agrees s u c t hu hs := (h (withRest s (u ++ closing)) (withRest s u) rfl).agrees s u c t hu hs

/-- Readers may see how long the text is that they start with. -/
theorem follows_get_length {f f' : Cursor → Reader β}
    (hany : ∀ s, FollowsUnless stuck 0 k d (f s) (f s))
    (h : ∀ s s', s.rest.length = s'.rest.length + closing.length →
      FollowsUnless stuck (s'.rest.length + 1) k d (f s) (f' s')) :
    FollowsUnless stuck b k d (get >>= f) (get >>= f') where
  suffix s c t hs := (hany s).suffix s c t hs
  takes s c t hs := (hany s).takes s c t hs
  agrees s u c t _ hs :=
    (h (withRest s (u ++ closing)) (withRest s u) List.length_append).agrees s u c t
      (Nat.lt_succ_self _) hs

theorem follows_get_fuel {f f' : Cursor → Reader β}
    (h : ∀ s s', FollowsUnless stuck (s'.rest.length + 1) k d (f s) (f' s')) :
    FollowsUnless stuck b k d (get >>= f) (get >>= f') :=
  follows_get_length (fun s => (h s s).zero _) fun s s' _ => h s s'

/-- Where something is taken the text has not come to its end. -/
theorem FollowsUnless.ne_nil (h : FollowsUnless stuck b k d P P') (hd : 0 < d) {s t : Cursor}
    {u : List Char} {a : β} (hs : P (withRest s (u ++ closing)) = some (a, t))
    (ht : closing.length ≤ t.rest.length) : u ≠ [] := by
  rintro rfl
  have htakes := h.takes _ a t hs ht
  rw [withRest_rest, List.nil_append] at htakes
  omega

/-- Readers may see the text as long as they take something, and what they see of its first
character and what follows is the same without the closing parenthesis. -/
theorem follows_get_rest {f f' : Cursor → Reader β} (hd : 0 < d)
    (h : ∀ s, FollowsUnless stuck b k d (f s) (f' s))
    (hend : ∀ s c u, f' (withRest s (c :: u ++ closing)) = f' (withRest s (c :: u))) :
    FollowsUnless stuck b k d (get >>= f) (get >>= f') where
  suffix s c t hs := (h s).suffix s c t hs
  takes s c t hs := (h s).takes s c t hs
  agrees s u c t hu hs ht hfree := by
    have hne := (h (withRest s (u ++ closing))).ne_nil hd hs (by omega)
    obtain ⟨v, hv, hs'⟩ := (h (withRest s (u ++ closing))).agrees s u c t hu hs ht hfree
    obtain ⟨first, u, rfl⟩ := List.exists_cons_of_ne_nil hne
    exact ⟨v, hv, (congrFun (hend s first u) _).symm.trans hs'⟩

end Rules

section Steps

variable {α : Type} {b k d : Nat} {stuck : α → Cursor → Prop}

theorem current_eq_some_iff {s t : Cursor} {c : Char} :
    current s = some (c, t) ↔ s.rest.head? = some c ∧ t = s := by
  obtain ⟨rest, extended, names⟩ := s
  cases rest with
  | nil => exact ⟨fun h => absurd h (Option.some_ne_none _).symm, by simp⟩
  | cons first rest =>
      constructor
      · intro h
        obtain ⟨rfl, rfl⟩ := result_inj h
        exact ⟨rfl, rfl⟩
      · rintro ⟨h, rfl⟩
        obtain rfl := Option.some.inj h
        rfl

theorem follows_current : Follows b 1 0 current current where
  suffix s c t h := by
    obtain ⟨-, rfl⟩ := current_eq_some_iff.mp h
    exact List.suffix_rfl
  takes s c t h _ := by
    obtain ⟨-, rfl⟩ := current_eq_some_iff.mp h
    exact Nat.le_refl _
  agrees s u c t _ h ht _ := by
    obtain ⟨hc, rfl⟩ := current_eq_some_iff.mp h
    cases u with
    | nil => simp [closing] at ht
    | cons first u => exact ⟨first :: u, rfl, current_eq_some_iff.mpr ⟨hc, rfl⟩⟩

section Peek

variable {f f' : Option Char → Reader α}

/-- At the end of the text a reader that peeks does what it does at a closing parenthesis. -/
theorem follows_peek (h : ∀ c, FollowsUnless stuck b k d (f c) (f' c))
    (hend : f' none = f' (some ')')) : FollowsUnless stuck b k d (peek >>= f) (peek >>= f') where
  suffix s c t hs := (h s.rest.head?).suffix s c t hs
  takes s c t hs := (h s.rest.head?).takes s c t hs
  agrees s u c t hu hs ht hfree := by
    obtain ⟨v, hv, hs'⟩ := (h (u ++ closing).head?).agrees s u c t hu hs ht hfree
    refine ⟨v, hv, Eq.trans ?_ hs'⟩
    cases u with
    | nil => exact congrFun hend (withRest s [])
    | cons first u => rfl

/-- A reader that takes what it saw has not come to the end of the text. -/
theorem follows_peek_taking (hd : 0 < d) (h : ∀ c, FollowsUnless stuck b k d (f c) (f' c)) :
    FollowsUnless stuck b k d (peek >>= f) (peek >>= f') :=
  follows_get_rest hd (fun s => h s.rest.head?) fun _ _ _ => rfl

end Peek

/-- Reading that takes something from the beginning of the text, which depends on the text before
the closing parenthesis only. -/
theorem follows_drop {R : Reader Unit} {g : Bool → List Char → List Char}
    (hR : ∀ s, R s = some ((), withRest s (g s.extended s.rest)))
    (hsuffix : ∀ e u, g e u <:+ u)
    (htakes : ∀ e u, closing.length ≤ (g e u).length → (g e u).length + d ≤ u.length)
    (hagrees : ∀ e u, closing.length ≤ (g e (u ++ closing)).length →
      g e (u ++ closing) = g e u ++ closing) :
    Follows b 0 d R R where
  suffix s c t h := by
    obtain rfl := (result_inj ((hR s).symm.trans h)).2
    exact hsuffix s.extended s.rest
  takes s c t h ht := by
    obtain rfl := (result_inj ((hR s).symm.trans h)).2
    exact htakes s.extended s.rest ht
  agrees s u c t _ h ht _ := by
    obtain rfl := (result_inj ((hR _).symm.trans h)).2
    exact ⟨g s.extended u, hagrees s.extended u ht, hR _⟩

theorem follows_bump : Follows b 0 1 bump bump := by
  refine follows_drop (g := fun _ u => u.drop 1) (fun _ => rfl) (fun _ u => List.drop_suffix 1 u)
    ?_ ?_
  · intro _ u hu
    have hclosing : closing.length = 2 := rfl
    rw [List.length_drop] at hu ⊢
    omega
  · intro _ u hu
    cases u with
    | nil => simp [closing] at hu
    | cons c u => rfl

theorem dropSpace_suffix (comment : Bool) (u : List Char) : dropSpace comment u <:+ u := by
  induction u generalizing comment with
  | nil => exact List.suffix_rfl
  | cons c u ih =>
      have hlater : ∀ comment, dropSpace comment u <:+ c :: u :=
        fun comment => (ih comment).trans (List.suffix_cons c u)
      simp only [dropSpace]
      split
      · exact hlater _
      · split
        · exact hlater _
        · split
          · exact hlater _
          · exact List.suffix_rfl

/-- Blanks and comments end before the parenthesis, or the parenthesis is in a comment. -/
theorem dropSpace_append (comment : Bool) (u : List Char)
    (h : closing.length ≤ (dropSpace comment (u ++ closing)).length) :
    dropSpace comment (u ++ closing) = dropSpace comment u ++ closing := by
  induction u generalizing comment with
  | nil =>
      cases comment with
      | false => decide
      | true => exact absurd h (by decide)
  | cons c u ih =>
      simp only [List.cons_append, dropSpace] at h ⊢
      split
      · next hcomment => exact ih _ (by simpa only [hcomment, if_true] using h)
      · next hcomment =>
        simp only [hcomment, Bool.false_eq_true, if_false] at h
        split
        · next hhash => exact ih _ (by simpa only [hhash, if_true] using h)
        · next hhash =>
          simp only [hhash, if_false] at h
          split
          · next hblank => exact ih _ (by simpa only [hblank, if_true] using h)
          · rfl

theorem follows_skipSpace : Follows b 0 0 skipSpace skipSpace := by
  have hsuffix : ∀ (e : Bool) (u : List Char), (if e then dropSpace false u else u) <:+ u := by
    intro e u
    split
    · exact dropSpace_suffix false u
    · exact List.suffix_rfl
  refine follows_drop (g := fun e u => if e then dropSpace false u else u) ?_ hsuffix
    (fun e u _ => (hsuffix e u).length_le) ?_
  · rintro ⟨rest, _ | _, names⟩ <;> rfl
  · rintro (_ | _) u h
    · rfl
    · exact dropSpace_append false u h

theorem follows_bumpSpace : Follows b 0 1 bumpSpace bumpSpace :=
  follows_bump.step fun _ => follows_skipSpace

end Steps

end NamespacePolicy.Proofs.RegexReading
