import Mathlib.Data.List.Basic
import NamespacePolicy.Json.Writer
import NamespacePolicy.Proofs.JsonGrammar

/-!
What is written can be read back.  A layout may put any blanks between the parts of a value; the
written text spells the value in every such layout.
-/

namespace NamespacePolicy.Proofs.JsonWriting

open Json
open NamespacePolicy.Proofs.JsonGrammar

/-- Values that a text can spell: numbers are naturals of 64 bits, and keys are strings. -/
inductive Spellable : Json → Prop
  | null : Spellable .null
  | boolean (value : Bool) : Spellable (.boolean value)
  | natural {n : Nat} (h : n < UInt64.size) : Spellable (.ofNat n)
  | string (text : String) : Spellable (.ofString text)
  | array {items : List Json} (h : ∀ item ∈ items, Spellable item) : Spellable (.array items)
  | record {members : List (String × Json)} (h : ∀ m ∈ members, Spellable m.2) :
      Spellable (.record members)

/-- Nothing but blanks stands around the brackets, commas and colons. -/
structure OnlyBlanks (layout : Layout) : Prop where
  lineBreak : ∀ depth, Blank (layout.lineBreak depth)
  colon : ∃ blanks, Blank blanks ∧ layout.colon = ':' :: blanks

theorem onlyBlanks_compact : OnlyBlanks .compact :=
  ⟨fun _ => blank_nil, [], blank_nil, rfl⟩

theorem onlyBlanks_pretty : OnlyBlanks .pretty := by
  refine ⟨fun depth c hc => ?_, [' '], by simp [Blank, isSpace], rfl⟩
  rcases List.mem_cons.mp hc with rfl | hc
  · rfl
  · rw [List.eq_of_mem_replicate hc]
    rfl

theorem code?_controlDigits :
    ∀ n < 0x20, (controlDigits (Char.ofNat n)).length = 2 ∧
      code? ('0' :: '0' :: controlDigits (Char.ofNat n)) = some n := by
  decide

theorem partText_control {c : Char} (h : c.toNat < 0x20) :
    PartText (.code c.toNat) ("\\u00".toList ++ controlDigits c) := by
  obtain ⟨hlength, hcode⟩ := code?_controlDigits c.toNat h
  rw [Char.ofNat_toNat] at hlength hcode
  obtain ⟨a, b, heq⟩ := List.length_eq_two.mp hlength
  rw [heq] at hcode ⊢
  exact .code hcode

theorem spelled?_control {c : Char} (h : c.toNat < 0x20) (parts : List StringPart) :
    spelled? (.code c.toNat :: parts) = (spelled? parts).map (c :: ·) := by
  have hhigh : isHighSurrogate c.toNat = false := by simp [isHighSurrogate]; omega
  have hlow : isLowSurrogate c.toNat = false := by simp [isLowSurrogate]; omega
  rw [spelled?.eq_def]
  simp [hhigh, hlow]

/-- Every character is written as a single part, which spells just that character. -/
theorem exists_partText_escaped (c : Char) :
    ∃ part, PartText part (escaped c) ∧
      ∀ parts, spelled? (part :: parts) = (spelled? parts).map (c :: ·) := by
  unfold escaped
  split
  case h_8 c hquote hslash _ _ _ _ _ =>
    split
    · next h => exact ⟨_, partText_control h, spelled?_control h⟩
    · next h => exact ⟨_, .plain hquote hslash (by omega), fun _ => rfl⟩
  all_goals exact ⟨_, .short rfl, fun _ => rfl⟩

theorem exists_stringText (text : List Char) :
    ∃ parts, StringText parts (text.flatMap escaped ++ ['"']) ∧ spelled? parts = some text := by
  induction text with
  | nil => exact ⟨[], .nil, rfl⟩
  | cons c text ih =>
      obtain ⟨part, hpart, hspelled⟩ := exists_partText_escaped c
      obtain ⟨parts, hparts, heq⟩ := ih
      refine ⟨part :: parts, ?_, by rw [hspelled, heq, Option.map_some]⟩
      rw [List.flatMap_cons, List.append_assoc]
      exact .cons hpart hparts

theorem spells_writtenString (text : String) :
    Spells (.ofString text) (writtenString text.toList) := by
  obtain ⟨parts, hparts, heq⟩ := exists_stringText text.toList
  have h := Spells.string hparts
  rw [heq, Option.map_some, String.ofList_toList] at h
  exact h

section Layouts

variable {layout : Layout} {depth : Nat}

/-- One or more items, each after the same blanks, and other blanks after the last of them. -/
theorem spellsItems_written (hlayout : OnlyBlanks layout) {after : List Char} (hafter : Blank after)
    {item : Json} {items : List Json}
    (h : ∀ j ∈ item :: items, Spells j (written layout depth j)) :
    SpellsItems (item :: items)
      (layout.lineBreak depth ++ written layout depth item ++ writtenItems layout depth items ++
        after) := by
  have hitem := (h item List.mem_cons_self).blank_append (hlayout.lineBreak depth)
  induction items generalizing item with
  | nil => simpa [writtenItems] using SpellsItems.last (hitem.append_blank hafter)
  | cons next items ih =>
      have hrest : ∀ j ∈ next :: items, Spells j (written layout depth j) :=
        fun j hj => h j (List.mem_cons_of_mem _ hj)
      have hnext := (hrest next List.mem_cons_self).blank_append (hlayout.lineBreak depth)
      simpa [writtenItems] using SpellsItems.more hitem (ih hrest hnext)

theorem spellsMembers_written (hlayout : OnlyBlanks layout) {after : List Char}
    (hafter : Blank after) {key : String} {value : Json} {members : List (String × Json)}
    (h : ∀ m ∈ (key, value) :: members, Spells m.2 (written layout depth m.2)) :
    SpellsMembers ((.ofString key, value) :: members.map fun (key, value) => (.ofString key, value))
      (layout.lineBreak depth ++ written layout depth (.ofString key) ++ layout.colon ++
        written layout depth value ++
        writtenMembers layout depth (members.map fun (key, value) => (.ofString key, value)) ++
        after) := by
  obtain ⟨blanks, hblanks, hcolon⟩ := hlayout.colon
  have hkey := (spells_writtenString key).blank_append (hlayout.lineBreak depth)
  have hvalue := (h (key, value) List.mem_cons_self).blank_append hblanks
  induction members generalizing key value with
  | nil =>
      simpa [writtenMembers, written, ofString, hcolon] using
        SpellsMembers.last hkey (hvalue.append_blank hafter)
  | cons next members ih =>
      obtain ⟨nextKey, next⟩ := next
      have hrest : ∀ m ∈ (nextKey, next) :: members, Spells m.2 (written layout depth m.2) :=
        fun m hm => h m (List.mem_cons_of_mem _ hm)
      have hmembers := ih hrest
        ((spells_writtenString nextKey).blank_append (hlayout.lineBreak depth))
        ((hrest (nextKey, next) List.mem_cons_self).blank_append hblanks)
      simpa [writtenMembers, written, ofString, hcolon] using SpellsMembers.more hkey hvalue hmembers

/-- The text that is written for a value spells it, in every layout and at every depth. -/
theorem spells_written (hlayout : OnlyBlanks layout) {j : Json} (h : Spellable j) :
    ∀ depth, Spells j (written layout depth j) := by
  induction h with
  | null => exact fun _ => .null
  | boolean value => cases value <;> exact fun _ => .boolean _
  | natural h => exact fun _ => .natural h
  | string text => exact fun _ => spells_writtenString text
  | @array items _ ih =>
      intro depth
      cases items with
      | nil => exact .emptyArray blank_nil
      | cons item items =>
          have hitems := spellsItems_written hlayout (hlayout.lineBreak depth)
            fun j hj => ih j hj (depth + 1)
          simpa [written] using Spells.array hitems
  | @record members _ ih =>
      intro depth
      cases members with
      | nil => exact .emptyObject blank_nil
      | cons m members =>
          obtain ⟨key, value⟩ := m
          have hmembers := spellsMembers_written hlayout (hlayout.lineBreak depth)
            fun m hm => ih m hm (depth + 1)
          simpa [written, record] using Spells.object hmembers

end Layouts

theorem spells_compactText {j : Json} (h : Spellable j) : Spells j j.compactText.toList := by
  rw [compactText, String.toList_ofList]
  exact spells_written onlyBlanks_compact h 0

theorem spells_prettyText {j : Json} (h : Spellable j) : Spells j j.prettyText.toList := by
  rw [prettyText, String.toList_ofList]
  exact spells_written onlyBlanks_pretty h 0

end NamespacePolicy.Proofs.JsonWriting
