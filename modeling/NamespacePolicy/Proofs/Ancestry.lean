import NamespacePolicy.Domain
import NamespacePolicy.Proofs.Separation
import NamespacePolicy.Text.Utf8

/-!
The order of domains.  `Domain.isBelow` compares texts; what it decides is that the components of
one domain begin those of the other one and are not all of them.  The bytes of the texts decide
the same, because no character's bytes begin those of another one.
-/

namespace NamespacePolicy.Proofs.Ancestry

open Separation Text

theorem append_sep_prefix_iff (sep : Char) (a b : List Char) :
    a ++ [sep] <+: b ↔ split sep a <+: split sep b ∧ split sep a ≠ split sep b := by
  constructor
  · rintro ⟨rest, rfl⟩
    rw [List.append_assoc, List.singleton_append, split_append_sep]
    refine ⟨List.prefix_append _ _, ?_⟩
    intro heq
    exact split_ne_nil sep rest (by simpa using heq)
  · rintro ⟨⟨rest, hrest⟩, hne⟩
    have hrestNe : rest ≠ [] := by
      rintro rfl
      exact hne (by simpa using hrest)
    refine ⟨join sep rest, ?_⟩
    calc
      a ++ [sep] ++ join sep rest = join sep (split sep a) ++ sep :: join sep rest := by
        rw [join_split, List.append_assoc, List.singleton_append]
      _ = join sep (split sep a ++ rest) :=
        (join_append sep (split_ne_nil sep a) hrestNe).symm
      _ = b := by rw [hrest, join_split]

/-- `parent` lies strictly above `d`: its components, and at least one more, lead to `d`. -/
def IsAncestor (parent d : Domain) : Prop :=
  parent.components <+: d.components ∧ parent.components ≠ d.components

theorem isBelow_eq_true_iff (d parent : Domain) :
    d.isBelow parent = true ↔ IsAncestor parent d := by
  simp only [Domain.isBelow, IsAncestor, Domain.components]
  cases hd : d.isGlobal with
  | true =>
      simp only [if_true, Bool.false_eq_true, false_iff, not_and, not_not]
      intro hprefix
      exact List.prefix_nil.mp hprefix
  | false =>
      cases hparent : parent.isGlobal with
      | true =>
          simp only [if_true, Bool.false_eq_true, if_false, true_iff]
          exact ⟨List.nil_prefix, (pieces_ne_nil '.' d.text).symm⟩
      | false =>
          simp only [Bool.false_eq_true, if_false, List.isPrefixOf_iff_prefix,
            append_sep_prefix_iff]
          rw [pieces, pieces, List.prefix_map_iff_of_injective ofList_injective,
            Ne, Ne, (List.map_injective_iff.mpr ofList_injective).eq_iff]

/-- The components hold all of a name; only the global domain has none. -/
theorem components_injective : Function.Injective Domain.components := by
  intro a b h
  simp only [Domain.components] at h
  cases ha : a.isGlobal <;> cases hb : b.isGlobal <;> simp only [ha, hb] at h
  · obtain ⟨a⟩ := a
    obtain ⟨b⟩ := b
    exact congrArg Domain.mk (pieces_injective '.' h)
  · exact absurd h (pieces_ne_nil '.' a.text)
  · exact absurd h.symm (pieces_ne_nil '.' b.text)
  · obtain ⟨a⟩ := a
    obtain ⟨b⟩ := b
    rw [Domain.isGlobal, beq_iff_eq] at ha hb
    exact congrArg Domain.mk (ha.trans hb.symm)

theorem isAncestor_iff_ne {parent d : Domain} :
    IsAncestor parent d ↔ parent.components <+: d.components ∧ parent ≠ d := by
  rw [IsAncestor, components_injective.ne_iff]

section Order

variable {a b c : Domain}

theorem IsAncestor.ne (h : IsAncestor b a) : b ≠ a :=
  (isAncestor_iff_ne.mp h).2

theorem IsAncestor.length_lt (h : IsAncestor b a) : b.components.length < a.components.length :=
  h.1.length_le.lt_of_ne fun hlength => h.2 (h.1.eq_of_length hlength)

theorem IsAncestor.trans (hba : IsAncestor b a) (hcb : IsAncestor c b) : IsAncestor c a := by
  refine ⟨hcb.1.trans hba.1, ?_⟩
  intro heq
  have hlength := hcb.length_lt.trans hba.length_lt
  rw [heq] at hlength
  exact Nat.lt_irrefl _ hlength

theorem IsAncestor.isGlobal_eq_false (h : IsAncestor b a) : a.isGlobal = false := by
  by_contra hglobal
  have hnone : a.components = [] := if_pos (Bool.not_eq_false _ ▸ hglobal)
  have hlength := h.length_lt
  rw [hnone] at hlength
  exact Nat.not_lt_zero _ hlength

/-- Of two domains whose components begin the same list, one is the other or lies above it. -/
theorem eq_or_isAncestor_of_prefix {names : List String} (hb : b.components <+: names)
    (hc : c.components <+: names) : b = c ∨ IsAncestor b c ∨ IsAncestor c b := by
  by_cases heq : b = c
  · exact .inl heq
  · refine .inr ((List.prefix_or_prefix_of_prefix hb hc).imp ?_ ?_)
    · intro hbc
      exact isAncestor_iff_ne.mpr ⟨hbc, heq⟩
    · intro hcb
      exact isAncestor_iff_ne.mpr ⟨hcb, Ne.symm heq⟩

end Order

/-- The test on the bytes of two names: those of the parent come first, and a dot follows. -/
def goesOnAfter (name parent : List UInt8) : Bool :=
  decide (parent.length < name.length) && parent.isPrefixOf name &&
    (name[parent.length]? == some '.'.toUInt8)

/-- `Domain.isBelow` on the bytes of the texts. -/
def bytesBelow (d parent : Domain) : Bool :=
  if d.isGlobal then false
  else if parent.isGlobal then true
  else goesOnAfter (Utf8.encode d.text.toList) (Utf8.encode parent.text.toList)

section Bytes

/-- A character is known by the bytes that begin with its own. -/
theorem utf8EncodeChar_append_inj {c c' : Char} {rest rest' : List UInt8}
    (h : String.utf8EncodeChar c ++ rest = String.utf8EncodeChar c' ++ rest') : c = c' := by
  have hdecode : ∀ (c : Char) (rest : List UInt8),
      ((String.utf8EncodeChar c ++ rest).toByteArray).utf8DecodeChar? 0 = some c := by
    intro c rest
    rw [List.toByteArray_append]
    exact ByteArray.utf8DecodeChar?_utf8EncodeChar_append
  have hsome := hdecode c rest
  rw [h, hdecode c' rest'] at hsome
  exact (Option.some.inj hsome).symm

theorem encode_prefix_iff {text other : List Char} :
    Utf8.encode text <+: Utf8.encode other ↔ text <+: other := by
  constructor
  · intro h
    induction text generalizing other with
    | nil => exact List.nil_prefix
    | cons c text ih =>
        cases other with
        | nil =>
            have hlength := h.length_le
            simp only [Utf8.encode, List.flatMap_cons, List.flatMap_nil, List.length_append,
              String.length_utf8EncodeChar, List.length_nil] at hlength
            have hpos := c.utf8Size_pos
            omega
        | cons c' other =>
            obtain ⟨rest, hrest⟩ := h
            simp only [Utf8.encode, List.flatMap_cons, List.append_assoc] at hrest
            obtain rfl := utf8EncodeChar_append_inj hrest
            exact List.prefix_cons_inj c |>.mpr (ih ⟨rest, List.append_cancel_left hrest⟩)
  · rintro ⟨rest, rfl⟩
    exact ⟨Utf8.encode rest, List.flatMap_append.symm⟩

theorem concat_prefix_iff {α : Type*} {xs ys : List α} {y : α} :
    xs ++ [y] <+: ys ↔ xs <+: ys ∧ ys[xs.length]? = some y := by
  constructor
  · rintro ⟨rest, rfl⟩
    exact ⟨⟨[y] ++ rest, (List.append_assoc ..).symm⟩, by simp⟩
  · rintro ⟨⟨rest, rfl⟩, hnext⟩
    rw [List.getElem?_append_right (Nat.le_refl _), Nat.sub_self] at hnext
    obtain ⟨others, rfl⟩ := List.head?_eq_some_iff.mp ((List.head?_eq_getElem? ..).trans hnext)
    exact ⟨others, List.append_assoc ..⟩

/-- A dot has one byte, so the two tests agree. -/
theorem goesOnAfter_encode (name parent : List Char) :
    goesOnAfter (Utf8.encode name) (Utf8.encode parent) = (parent ++ ['.']).isPrefixOf name := by
  have hdot : Utf8.encode parent ++ ['.'.toUInt8] = Utf8.encode (parent ++ ['.']) := by
    rw [Utf8.encode, Utf8.encode, List.flatMap_append]
    rfl
  rw [Bool.eq_iff_iff, List.isPrefixOf_iff_prefix, ← encode_prefix_iff, ← hdot, concat_prefix_iff]
  simp only [goesOnAfter, Bool.and_eq_true, decide_eq_true_eq, List.isPrefixOf_iff_prefix,
    beq_iff_eq, and_assoc]
  refine ⟨And.right, fun h => ⟨?_, h⟩⟩
  exact (List.getElem?_eq_some_iff.mp h.2).1

theorem isBelow_eq_bytesBelow (d parent : Domain) : d.isBelow parent = bytesBelow d parent := by
  rw [Domain.isBelow, bytesBelow, goesOnAfter_encode]

end Bytes

/-- Domains are known by their components, and one is below another one just when its components
are those of the other one and more.  So this is a strict order in which the domains above a domain
are in a line. -/
theorem isBelow_orders_components :
    (∀ a b : Domain, a.components = b.components ↔ a = b) ∧
      Domain.global.components = [] ∧
      (∀ a b : Domain, a.isBelow b = bytesBelow a b) ∧
      (∀ a b : Domain, a.isBelow b = true ↔
        b.components <+: a.components ∧ b.components ≠ a.components) ∧
      (∀ a : Domain, a.isBelow a = false) ∧
      (∀ a b c : Domain, a.isBelow b = true → b.isBelow c = true → a.isBelow c = true) ∧
      ∀ a b c : Domain, a.isBelow b = true → a.isBelow c = true →
        b = c ∨ b.isBelow c = true ∨ c.isBelow b = true := by
  refine ⟨fun a b => components_injective.eq_iff, rfl, isBelow_eq_bytesBelow,
    isBelow_eq_true_iff, ?_, ?_, ?_⟩
  · intro a
    rw [Bool.eq_false_iff, Ne, isBelow_eq_true_iff]
    exact fun h => h.ne rfl
  · intro a b c hab hbc
    rw [isBelow_eq_true_iff] at hab hbc ⊢
    exact hab.trans hbc
  · intro a b c hab hac
    rw [isBelow_eq_true_iff] at hab hac
    have hline := eq_or_isAncestor_of_prefix hab.1 hac.1
    rw [isBelow_eq_true_iff, isBelow_eq_true_iff]
    exact hline.imp_right Or.symm

/-- Names that no policy could give: some of their components are empty. -/
theorem empty_components_ordered :
    let a : Domain := .ofSymbol "é..B"
    let b : Domain := .ofSymbol "é."
    let c : Domain := .ofSymbol "é"
    a.components = ["é", "", "B"] ∧ b.components = ["é", ""] ∧
      a.isBelow b = true ∧ b.isBelow c = true ∧ a.isBelow c = true ∧
      (b = c ∨ b.isBelow c = true ∨ c.isBelow b = true) := by
  intro a b c
  have hab : a.isBelow b = true := by decide +kernel
  have hbc : b.isBelow c = true := by decide +kernel
  obtain ⟨-, -, -, -, -, htrans, hline⟩ := isBelow_orders_components
  have hac : a.isBelow c = true := htrans a b c hab hbc
  exact ⟨by decide +kernel, by decide +kernel, hab, hbc, hac, hline a b c hab hac⟩

end NamespacePolicy.Proofs.Ancestry
