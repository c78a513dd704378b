import Mathlib.Data.List.TakeWhile
import NamespacePolicy.Json.Reader

/-!
Which texts spell a JSON value.  The grammar leaves open the blanks around every value and how the
characters of a string are escaped.  A text that spells a value is read as that value, whatever
follows it, so no text spells two values.
-/

namespace NamespacePolicy.Proofs.JsonGrammar

open Json

def Blank (text : List Char) : Prop := ∀ c ∈ text, isSpace c = true

/-- How a part of a string is written. -/
inductive PartText : StringPart → List Char → Prop
  | plain {c : Char} (hquote : c ≠ '"') (hslash : c ≠ '\\') (hcontrol : 0x20 ≤ c.toNat) :
      PartText (.char c) [c]
  | short {e c : Char} (h : shortEscape? e = some c) : PartText (.char c) ['\\', e]
  | code {a b c d : Char} {value : Nat} (h : code? [a, b, c, d] = some value) :
      PartText (.code value) ['\\', 'u', a, b, c, d]

/-- The text of a string after the quote that opens it. -/
inductive StringText : List StringPart → List Char → Prop
  | nil : StringText [] ['"']
  | cons {part : StringPart} {parts : List StringPart} {own text : List Char}
      (hpart : PartText part own) (hparts : StringText parts text) :
      StringText (part :: parts) (own ++ text)

def Digits (text : List Char) : Prop := text ≠ [] ∧ ∀ c ∈ text, isDigit c = true

inductive SignText : (negative : Bool) → List Char → Prop
  | absent : SignText false []
  | plus : SignText false ['+']
  | minus : SignText true ['-']

inductive DecimalsText : Option (List Char) → List Char → Prop
  | absent : DecimalsText none []
  | given {digits : List Char} (h : Digits digits) : DecimalsText (some digits) ('.' :: digits)

inductive ExponentText : Option Int → List Char → Prop
  | absent : ExponentText none []
  | given {mark : Char} {negative : Bool} {sign digits : List Char}
      (hmark : mark = 'e' ∨ mark = 'E') (hsign : SignText negative sign) (h : Digits digits) :
      ExponentText (some (if negative then -(digitsValue digits : Int) else digitsValue digits))
        (mark :: (sign ++ digits))

/-- A number without its sign.  Before the point, no zero stands in front of other digits. -/
inductive MagnitudeText (whole : List Char) :
    Option (List Char) → Option Int → List Char → Prop
  | mk {decimals : Option (List Char)} {exponent : Option Int} {places power : List Char}
      (hwhole : Digits whole) (hzero : whole.head? = some '0' → whole = ['0'])
      (hdecimals : DecimalsText decimals places) (hexponent : ExponentText exponent power) :
      MagnitudeText whole decimals exponent (whole ++ (places ++ power))

inductive NumberText : JsonNumber → List Char → Prop
  | positive {whole text : List Char} {decimals : Option (List Char)} {exponent : Option Int}
      (h : MagnitudeText whole decimals exponent text) :
      NumberText (numberOf false whole decimals exponent) text
  | negative {whole text : List Char} {decimals : Option (List Char)} {exponent : Option Int}
      (h : MagnitudeText whole decimals exponent text) :
      NumberText (numberOf true whole decimals exponent) ('-' :: text)

mutual

/-- The texts that spell a value. -/
inductive Spells : Json → List Char → Prop
  | padded {j : Json} {before own after : List Char} (hbefore : Blank before) (h : Spells j own)
      (hafter : Blank after) : Spells j (before ++ own ++ after)
  | null : Spells .null "null".toList
  | boolean (value : Bool) : Spells (.boolean value) (toString value).toList
  | number {n : JsonNumber} {text : List Char} (h : NumberText n text) : Spells (.number n) text
  | string {parts : List StringPart} {text : List Char} (h : StringText parts text) :
      Spells (.string ((spelled? parts).map String.ofList)) ('"' :: text)
  | emptyArray {blanks : List Char} (h : Blank blanks) :
      Spells (.array []) ('[' :: blanks ++ [']'])
  | array {items : List Json} {text : List Char} (h : SpellsItems items text) :
      Spells (.array items) ('[' :: text ++ [']'])
  | emptyObject {blanks : List Char} (h : Blank blanks) :
      Spells (.object []) ('\x7b' :: blanks ++ ['\x7d'])
  | object {members : List (Json × Json)} {text : List Char} (h : SpellsMembers members text) :
      Spells (.object members) ('\x7b' :: text ++ ['\x7d'])

/-- The texts that spell one or more items of an array. -/
inductive SpellsItems : List Json → List Char → Prop
  | last {item : Json} {text : List Char} (h : Spells item text) : SpellsItems [item] text
  | more {item : Json} {items : List Json} {own text : List Char} (h : Spells item own)
      (hitems : SpellsItems items text) : SpellsItems (item :: items) (own ++ ',' :: text)

/-- The texts that spell one or more members of an object. -/
inductive SpellsMembers : List (Json × Json) → List Char → Prop
  | last {key : Option String} {value : Json} {keyText text : List Char}
      (hkey : Spells (.string key) keyText) (h : Spells value text) :
      SpellsMembers [(.string key, value)] (keyText ++ ':' :: text)
  | more {key : Option String} {value : Json} {members : List (Json × Json)}
      {keyText own text : List Char} (hkey : Spells (.string key) keyText) (h : Spells value own)
      (hmembers : SpellsMembers members text) :
      SpellsMembers ((.string key, value) :: members) (keyText ++ ':' :: own ++ ',' :: text)

end

theorem skipSpace_append {blanks : List Char} (h : Blank blanks) (text : List Char) :
    skipSpace (blanks ++ text) = skipSpace text := by
  rw [skipSpace, skipSpace, List.dropWhile_append_of_pos h]

theorem skipSpace_cons {c : Char} (h : isSpace c = false) (text : List Char) :
    skipSpace (c :: text) = c :: text := by
  simp [skipSpace, h]

theorem blank_nil : Blank [] := by simp [Blank]

theorem Blank.append {a b : List Char} (ha : Blank a) (hb : Blank b) : Blank (a ++ b) :=
  fun c hc => (List.mem_append.mp hc).elim (ha c) (hb c)

theorem Spells.blank_append {j : Json} {blanks text : List Char} (h : Spells j text)
    (hblanks : Blank blanks) : Spells j (blanks ++ text) := by
  simpa using Spells.padded hblanks h blank_nil

theorem Spells.append_blank {j : Json} {blanks text : List Char} (h : Spells j text)
    (hblanks : Blank blanks) : Spells j (text ++ blanks) :=
  .padded blank_nil h hblanks

theorem readValue_append {blanks : List Char} (h : Blank blanks) (fuel : Nat)
    (text : List Char) : readValue fuel (blanks ++ text) = readValue fuel text := by
  cases fuel with
  | zero => rfl
  | succ fuel => rw [readValue, readValue, skipSpace_append h]

theorem readParts?_append {part : StringPart} {own : List Char} (h : PartText part own)
    (rest : List Char) :
    readParts? (own ++ rest) = (readParts? rest).map fun read => (part :: read.1, read.2) := by
  cases h with
  | @plain c hquote hslash hcontrol =>
      have hnot : ¬ c.toNat < 0x20 := by omega
      rw [List.singleton_append, readParts?]
      · cases readParts? rest <;> simp [hnot]
      all_goals simp_all
  | @short e c h =>
      have hu : e ≠ 'u' := by
        rintro rfl
        simp [shortEscape?] at h
      change readParts? ('\\' :: e :: rest) = _
      rw [readParts?]
      · cases readParts? rest <;> simp [h]
      · simp_all
  | @code a b c d value h =>
      change readParts? ('\\' :: 'u' :: a :: b :: c :: d :: rest) = _
      rw [readParts?]
      cases readParts? rest <;> simp [h]

theorem readParts?_of_stringText {parts : List StringPart} {text : List Char}
    (h : StringText parts text) (rest : List Char) :
    readParts? (text ++ rest) = some (parts, rest) := by
  induction h with
  | nil => rfl
  | cons hpart _ ih => rw [List.append_assoc, readParts?_append hpart, ih, Option.map_some]

/-- What cannot go on some digits. -/
def EndsDigits (rest : List Char) : Prop := ∀ c, rest.head? = some c → isDigit c = false

/-- What cannot go on a number. -/
def Follows (rest : List Char) : Prop :=
  ∀ c, rest.head? = some c → isDigit c = false ∧ c ≠ '.' ∧ c ≠ 'e' ∧ c ≠ 'E'

theorem Follows.endsDigits {rest : List Char} (h : Follows rest) : EndsDigits rest :=
  fun c hc => (h c hc).1

section Digits

variable {digits rest : List Char} (hdigits : ∀ c ∈ digits, isDigit c = true)
  (hrest : EndsDigits rest)

include hdigits hrest

theorem takeWhile_digits : (digits ++ rest).takeWhile isDigit = digits := by
  rw [List.takeWhile_append_of_pos hdigits]
  cases rest with
  | nil => simp
  | cons c rest => simp [hrest c rfl]

theorem dropWhile_digits : (digits ++ rest).dropWhile isDigit = rest := by
  rw [List.dropWhile_append_of_pos hdigits]
  cases rest with
  | nil => rfl
  | cons c rest => simp [hrest c rfl]

end Digits

theorem readWhole?_append {whole rest : List Char} (hwhole : Digits whole)
    (hzero : whole.head? = some '0' → whole = ['0']) (hrest : EndsDigits rest) :
    readWhole? (whole ++ rest) = some (whole, rest) := by
  rw [readWhole?, takeWhile_digits hwhole.2 hrest, dropWhile_digits hwhole.2 hrest]
  split
  · exact absurd rfl hwhole.1
  · rfl
  · next hmore =>
      obtain ⟨-, hnil⟩ := List.cons.inj (hzero rfl)
      exact absurd hnil hmore
  · rfl

theorem ExponentText.endsDecimals {exponent : Option Int} {power : List Char}
    (h : ExponentText exponent power) {rest : List Char} (hrest : Follows rest) :
    EndsDigits (power ++ rest) ∧ (power ++ rest).head? ≠ some '.' := by
  cases h with
  | absent => exact ⟨hrest.endsDigits, fun hpoint => (hrest _ hpoint).2.1 rfl⟩
  | given hmark _ _ =>
      rcases hmark with rfl | rfl
      all_goals
        refine ⟨?_, by simp⟩
        rintro _ ⟨rfl⟩
        decide

theorem readDecimals?_append {decimals : Option (List Char)} {places rest : List Char}
    (h : DecimalsText decimals places) (hrest : EndsDigits rest) (hpoint : rest.head? ≠ some '.') :
    readDecimals? (places ++ rest) = some (decimals, rest) := by
  cases h with
  | absent =>
      cases rest with
      | nil => rfl
      | cons c rest =>
          rw [List.nil_append, readDecimals?]
          simp_all
  | given hdigits =>
      rw [List.cons_append, readDecimals?, takeWhile_digits hdigits.2 hrest,
        dropWhile_digits hdigits.2 hrest]
      split
      · exact absurd rfl hdigits.1
      · rfl

theorem DecimalsText.endsDigits {decimals : Option (List Char)} {places : List Char}
    (h : DecimalsText decimals places) {rest : List Char} (hrest : EndsDigits rest) :
    EndsDigits (places ++ rest) := by
  cases h with
  | absent => exact hrest
  | given _ =>
      rintro _ ⟨rfl⟩
      decide

theorem readExponent?_append {exponent : Option Int} {power rest : List Char}
    (h : ExponentText exponent power) (hrest : Follows rest) :
    readExponent? (power ++ rest) = some (exponent, rest) := by
  cases h with
  | absent =>
      cases rest with
      | nil => rfl
      | cons c rest =>
          obtain ⟨-, -, he, hE⟩ := hrest c rfl
          simp [readExponent?, he, hE]
  | @given mark negative sign digits hmark hsign hdigits =>
      have htake := takeWhile_digits hdigits.2 hrest.endsDigits
      have hdrop := dropWhile_digits hdigits.2 hrest.endsDigits
      obtain ⟨c, more, rfl⟩ := List.exists_cons_of_ne_nil hdigits.1
      have hc : isDigit c = true := hdigits.2 c List.mem_cons_self
      have hplus : c ≠ '+' := by
        rintro rfl
        simp [isDigit] at hc
      have hminus : c ≠ '-' := by
        rintro rfl
        simp [isDigit] at hc
      cases hsign <;> simp_all [readExponent?]

theorem readNumber_append {whole text rest : List Char} {decimals : Option (List Char)}
    {exponent : Option Int} (h : MagnitudeText whole decimals exponent text)
    (hrest : Follows rest) (negative : Bool) :
    readNumber negative (text ++ rest) =
      (.number (numberOf negative whole decimals exponent), some rest) := by
  obtain ⟨hwhole, hzero, hdecimals, hexponent⟩ := h
  obtain ⟨hends, hpoint⟩ := hexponent.endsDecimals hrest
  simp [readNumber, readWhole?_append hwhole hzero (hdecimals.endsDigits hends),
    readDecimals?_append hdecimals hends hpoint, readExponent?_append hexponent hrest]

theorem MagnitudeText.exists_cons {whole text : List Char} {decimals : Option (List Char)}
    {exponent : Option Int} (h : MagnitudeText whole decimals exponent text) :
    ∃ c left, text = c :: left ∧ isDigit c = true := by
  obtain ⟨hwhole, -, -, -⟩ := h
  obtain ⟨c, left, rfl⟩ := List.exists_cons_of_ne_nil hwhole.1
  exact ⟨c, _, rfl, hwhole.2 c List.mem_cons_self⟩

theorem NumberText.exists_cons {n : JsonNumber} {text : List Char} (h : NumberText n text) :
    ∃ c left, text = c :: left ∧ (c = '-' ∨ isDigit c = true) := by
  cases h with
  | positive h =>
      obtain ⟨c, left, heq, hc⟩ := h.exists_cons
      exact ⟨c, left, heq, .inr hc⟩
  | negative h => exact ⟨_, _, rfl, .inl rfl⟩

theorem digits_toDigits (n : Nat) : Digits (Nat.toDigits 10 n) :=
  ⟨Nat.toDigits_ne_nil, fun _ hc => Nat.isDigit_of_mem_toDigits (by decide) (by decide) hc⟩

theorem head?_toDigits_ne_zero {n : Nat} (hn : 0 < n) :
    (Nat.toDigits 10 n).head? ≠ some '0' := by
  induction n using Nat.strongRecOn with
  | ind n ih =>
      by_cases hlt : n < 10
      · rw [Nat.toDigits_of_lt_base hlt, List.head?_cons, Ne, Option.some.injEq,
          Nat.digitChar_eq_zero]
        omega
      · rw [Nat.toDigits_of_base_le (by decide) (by omega),
          List.head?_append, Option.or_of_isSome (by simp)]
        exact ih (n / 10) (by omega) (by omega)

theorem magnitudeText_toDigits (n : Nat) :
    MagnitudeText (Nat.toDigits 10 n) none none (Nat.toDigits 10 n) := by
  have hzero : (Nat.toDigits 10 n).head? = some '0' → Nat.toDigits 10 n = ['0'] := by
    intro hhead
    rcases Nat.eq_zero_or_pos n with rfl | hn
    · rfl
    · exact absurd hhead (head?_toDigits_ne_zero hn)
  simpa using MagnitudeText.mk (digits_toDigits n) hzero .absent .absent

theorem le_ofDigitChars (digits : List Char) (init : Nat) :
    init ≤ Nat.ofDigitChars 10 digits init := by
  induction digits generalizing init with
  | nil => simp
  | cons c digits ih =>
      rw [Nat.ofDigitChars_cons]
      exact le_trans (by omega) (ih _)

theorem takeDigits_of_lt {digits : List Char} {significand : Nat}
    (h : Nat.ofDigitChars 10 digits significand < UInt64.size) :
    takeDigits significand digits = (Nat.ofDigitChars 10 digits significand, 0) := by
  induction digits generalizing significand with
  | nil => simp [takeDigits]
  | cons c digits ih =>
      rw [Nat.ofDigitChars_cons, Nat.mul_comm] at h ⊢
      have hle := le_ofDigitChars digits (significand * 10 + (c.toNat - '0'.toNat))
      rw [takeDigits, ← ih h]
      simp only [UInt64.size] at h
      exact if_neg (by omega)

theorem numberOf_toDigits {n : Nat} (h : n < UInt64.size) :
    numberOf false (Nat.toDigits 10 n) none none = .natural n := by
  have hvalue : Nat.ofDigitChars 10 (Nat.toDigits 10 n) 0 = n := Nat.ofDigitChars_ten_toDigits
  have htake : takeDigits 0 (Nat.toDigits 10 n) = (Nat.ofDigitChars 10 (Nat.toDigits 10 n) 0, 0) :=
    takeDigits_of_lt (hvalue.symm ▸ h)
  simp [numberOf, htake, hvalue]

theorem Spells.natural {n : Nat} (h : n < UInt64.size) :
    Spells (.number (.natural n)) (Nat.toDigits 10 n) := by
  have hnumber := NumberText.positive (magnitudeText_toDigits n)
  rw [numberOf_toDigits h] at hnumber
  exact .number hnumber

theorem isSpace_iff (c : Char) :
    isSpace c = true ↔ c = ' ' ∨ c = '\n' ∨ c = '\t' ∨ c = '\r' := by
  simp [isSpace, or_assoc]

theorem follows_cons {c : Char}
    (h : isDigit c = false ∧ c ≠ '.' ∧ c ≠ 'e' ∧ c ≠ 'E') (rest : List Char) :
    Follows (c :: rest) := by
  rintro _ ⟨rfl⟩
  exact h

theorem Follows.blank_append {blanks rest : List Char} (hblanks : Blank blanks)
    (hrest : Follows rest) : Follows (blanks ++ rest) := by
  cases blanks with
  | nil => exact hrest
  | cons c blanks =>
      refine follows_cons ?_ _
      rcases (isSpace_iff c).mp (hblanks c List.mem_cons_self) with rfl | rfl | rfl | rfl <;> decide

theorem isSpace_of_isDigit {c : Char} (h : isDigit c = true) : isSpace c = false := by
  rw [← Bool.not_eq_true, isSpace_iff]
  rintro (rfl | rfl | rfl | rfl) <;> simp [isDigit] at h

/-- A value begins with a character that closes neither an array nor an object. -/
theorem Spells.skipSpace_eq_cons : ∀ {j : Json} {text : List Char}, Spells j text →
    ∀ rest, ∃ c left, skipSpace (text ++ rest) = c :: left ∧ c ≠ ']' ∧ c ≠ '\x7d'
  | _, _, .padded hbefore h _, rest => by
      rw [List.append_assoc, List.append_assoc, skipSpace_append hbefore]
      exact h.skipSpace_eq_cons _
  | _, _, .null, rest => ⟨_, _, rfl, by decide, by decide⟩
  | _, _, .boolean true, rest => ⟨_, _, rfl, by decide, by decide⟩
  | _, _, .boolean false, rest => ⟨_, _, rfl, by decide, by decide⟩
  | _, _, .number h, rest => by
      obtain ⟨c, left, rfl, rfl | hc⟩ := h.exists_cons
      · exact ⟨_, _, rfl, by decide, by decide⟩
      · rw [List.cons_append, skipSpace_cons (isSpace_of_isDigit hc)]
        exact ⟨c, _, rfl, by rintro rfl; simp [isDigit] at hc, by rintro rfl; simp [isDigit] at hc⟩
  | _, _, .string _, rest => ⟨_, _, rfl, by decide, by decide⟩
  | _, _, .emptyArray _, rest => ⟨_, _, rfl, by decide, by decide⟩
  | _, _, .array _, rest => ⟨_, _, rfl, by decide, by decide⟩
  | _, _, .emptyObject _, rest => ⟨_, _, rfl, by decide, by decide⟩
  | _, _, .object _, rest => ⟨_, _, rfl, by decide, by decide⟩

theorem SpellsItems.skipSpace_eq_cons {items : List Json} {text : List Char}
    (h : SpellsItems items text) (rest : List Char) :
    ∃ c left, skipSpace (text ++ rest) = c :: left ∧ c ≠ ']' := by
  cases h with
  | last h =>
      obtain ⟨c, left, heq, hc, -⟩ := h.skipSpace_eq_cons rest
      exact ⟨c, left, heq, hc⟩
  | @more _ _ own text h _ =>
      obtain ⟨c, left, heq, hc, -⟩ := h.skipSpace_eq_cons (',' :: text ++ rest)
      exact ⟨c, left, by rw [List.append_assoc, heq], hc⟩

theorem SpellsMembers.skipSpace_eq_cons {members : List (Json × Json)} {text : List Char}
    (h : SpellsMembers members text) (rest : List Char) :
    ∃ c left, skipSpace (text ++ rest) = c :: left ∧ c ≠ '\x7d' := by
  cases h with
  | @last _ _ _ text hkey _ =>
      obtain ⟨c, left, heq, -, hc⟩ := hkey.skipSpace_eq_cons (':' :: text ++ rest)
      exact ⟨c, left, by rw [List.append_assoc, heq], hc⟩
  | @more _ _ _ _ own text hkey _ _ =>
      obtain ⟨c, left, heq, -, hc⟩ := hkey.skipSpace_eq_cons (':' :: own ++ ',' :: text ++ rest)
      exact ⟨c, left, by simpa using heq, hc⟩

theorem readValue_array {fuel : Nat} {text : List Char} {c : Char} {left : List Char}
    (h : skipSpace text = c :: left) (hc : c ≠ ']') :
    readValue (fuel + 1) ('[' :: text) =
      (.array (readItems fuel text).1, (readItems fuel text).2) := by
  rw [readValue, skipSpace_cons (by decide)]
  simp [h, hc]

theorem readValue_emptyArray {blanks : List Char} (h : Blank blanks) (fuel : Nat)
    (rest : List Char) :
    readValue (fuel + 1) ('[' :: (blanks ++ ']' :: rest)) = (.array [], some rest) := by
  rw [readValue, skipSpace_cons (by decide)]
  simp [skipSpace_append h, skipSpace_cons (c := ']') (by decide)]

theorem readValue_emptyObject {blanks : List Char} (h : Blank blanks) (fuel : Nat)
    (rest : List Char) :
    readValue (fuel + 1) ('\x7b' :: (blanks ++ '\x7d' :: rest)) = (.object [], some rest) := by
  rw [readValue, skipSpace_cons (by decide)]
  simp [skipSpace_append h, skipSpace_cons (c := '\x7d') (by decide)]

theorem readValue_object {fuel : Nat} {text : List Char} {c : Char} {left : List Char}
    (h : skipSpace text = c :: left) (hc : c ≠ '\x7d') :
    readValue (fuel + 1) ('\x7b' :: text) =
      (.object (readMembers fuel text).1, (readMembers fuel text).2) := by
  rw [readValue, skipSpace_cons (by decide)]
  simp [h, hc]

theorem readValue_string {parts : List StringPart} {text : List Char} (h : StringText parts text)
    (fuel : Nat) (rest : List Char) :
    readValue (fuel + 1) ('"' :: text ++ rest) =
      (.string ((spelled? parts).map String.ofList), some rest) := by
  rw [readValue, List.cons_append, skipSpace_cons (by decide)]
  simp [readString, readParts?_of_stringText h]

theorem readValue_digit {c : Char} (hc : isDigit c = true) (fuel : Nat) (rest : List Char) :
    readValue (fuel + 1) (c :: rest) = readNumber false (c :: rest) := by
  rw [readValue, skipSpace_cons (isSpace_of_isDigit hc)]
  split
  · next heq => simp [isDigit, (List.cons.inj heq).1] at hc
  · next heq => simp [isDigit, (List.cons.inj heq).1] at hc
  · next heq => simp [isDigit, (List.cons.inj heq).1] at hc
  · next heq => simp [isDigit, (List.cons.inj heq).1] at hc
  · next heq =>
    obtain ⟨rfl, rfl⟩ := List.cons.inj heq
    rw [if_pos hc]
  · next heq => simp at heq

theorem readValue_number {n : JsonNumber} {text : List Char} (h : NumberText n text) (fuel : Nat)
    {rest : List Char} (hrest : Follows rest) :
    readValue (fuel + 1) (text ++ rest) = (.number n, some rest) := by
  cases h with
  | positive h =>
      obtain ⟨c, left, rfl, hc⟩ := h.exists_cons
      rw [List.cons_append, readValue_digit hc, ← List.cons_append, readNumber_append h hrest]
  | negative h =>
      rw [List.cons_append, readValue, skipSpace_cons (by decide)]
      exact readNumber_append h hrest true

section Lists

variable {fuel : Nat} {text next rest blanks blanks' : List Char} {item value : Json}
  {key : Option String}

theorem readItems_last (hblanks : Blank blanks)
    (h : readValue fuel text = (item, some (blanks ++ ']' :: rest))) :
    readItems (fuel + 1) text = ([item], some rest) := by
  simp [readItems, h, skipSpace_append hblanks, skipSpace_cons (c := ']') (by decide)]

theorem readItems_more (hblanks : Blank blanks)
    (h : readValue fuel text = (item, some (blanks ++ ',' :: next))) :
    readItems (fuel + 1) text = (item :: (readItems fuel next).1, (readItems fuel next).2) := by
  simp [readItems, h, skipSpace_append hblanks, skipSpace_cons (c := ',') (by decide)]

theorem readMembers_last (hblanks : Blank blanks) (hblanks' : Blank blanks')
    (hkey : readValue fuel text = (.string key, some (blanks ++ ':' :: next)))
    (h : readValue fuel next = (value, some (blanks' ++ '\x7d' :: rest))) :
    readMembers (fuel + 1) text = ([(.string key, value)], some rest) := by
  simp [readMembers, hkey, h, skipSpace_append hblanks, skipSpace_append hblanks',
    skipSpace_cons (c := ':') (by decide), skipSpace_cons (c := '\x7d') (by decide)]

theorem readMembers_more (hblanks : Blank blanks) (hblanks' : Blank blanks')
    (hkey : readValue fuel text = (.string key, some (blanks ++ ':' :: next)))
    (h : readValue fuel next = (value, some (blanks' ++ ',' :: rest))) :
    readMembers (fuel + 1) text =
      ((.string key, value) :: (readMembers fuel rest).1, (readMembers fuel rest).2) := by
  simp [readMembers, hkey, h, skipSpace_append hblanks, skipSpace_append hblanks',
    skipSpace_cons (c := ':') (by decide), skipSpace_cons (c := ',') (by decide)]

end Lists

mutual

/-- A text that spells a value is read as that value, up to blanks before what follows it. -/
theorem readValue_of_spells : ∀ {j : Json} {text : List Char}, Spells j text →
    ∀ {rest : List Char}, Follows rest → ∀ {fuel : Nat}, 2 * text.length ≤ fuel →
      ∃ blanks, Blank blanks ∧ readValue fuel (text ++ rest) = (j, some (blanks ++ rest))
  | _, _, .padded hbefore h hafter, rest, hrest, fuel, hfuel => by
      simp only [List.length_append] at hfuel
      obtain ⟨blanks, hblanks, heq⟩ :=
        readValue_of_spells h (hrest.blank_append hafter) (by omega : _ ≤ fuel)
      refine ⟨_, hblanks.append hafter, ?_⟩
      rw [List.append_assoc, List.append_assoc, readValue_append hbefore, heq, List.append_assoc]
  | _, _, .null, rest, _, _ + 1, _ => ⟨[], blank_nil, rfl⟩
  | _, _, .boolean true, rest, _, _ + 1, _ => ⟨[], blank_nil, rfl⟩
  | _, _, .boolean false, rest, _, _ + 1, _ => ⟨[], blank_nil, rfl⟩
  | _, _, .number h, rest, hrest, fuel, hfuel => by
      obtain ⟨c, left, rfl, -⟩ := h.exists_cons
      rw [List.length_cons] at hfuel
      obtain ⟨fuel, rfl⟩ := Nat.exists_eq_succ_of_ne_zero (by omega : fuel ≠ 0)
      exact ⟨[], blank_nil, readValue_number h fuel hrest⟩
  | _, _, .string h, rest, _, fuel + 1, _ => ⟨[], blank_nil, readValue_string h fuel rest⟩
  | _, _, .emptyArray h, rest, _, fuel + 1, _ => by
      refine ⟨[], blank_nil, ?_⟩
      rw [List.append_assoc, List.cons_append, List.singleton_append, readValue_emptyArray h]
      rfl
  | _, _, .array h, rest, _, fuel + 1, hfuel => by
      simp only [List.length_append, List.length_cons] at hfuel
      obtain ⟨c, left, heq, hc⟩ := h.skipSpace_eq_cons (']' :: rest)
      refine ⟨[], blank_nil, ?_⟩
      rw [List.append_assoc, List.cons_append, List.singleton_append, readValue_array heq hc,
        readItems_of_spells h rest (by omega : _ ≤ fuel)]
      rfl
  | _, _, .emptyObject h, rest, _, fuel + 1, _ => by
      refine ⟨[], blank_nil, ?_⟩
      rw [List.append_assoc, List.cons_append, List.singleton_append, readValue_emptyObject h]
      rfl
  | _, _, .object h, rest, _, fuel + 1, hfuel => by
      simp only [List.length_append, List.length_cons] at hfuel
      obtain ⟨c, left, heq, hc⟩ := h.skipSpace_eq_cons ('\x7d' :: rest)
      refine ⟨[], blank_nil, ?_⟩
      rw [List.append_assoc, List.cons_append, List.singleton_append, readValue_object heq hc,
        readMembers_of_spells h rest (by omega : _ ≤ fuel)]
      rfl

theorem readItems_of_spells : ∀ {items : List Json} {text : List Char}, SpellsItems items text →
    ∀ (rest : List Char) {fuel : Nat}, 2 * text.length + 1 ≤ fuel →
      readItems fuel (text ++ ']' :: rest) = (items, some rest)
  | _, _, .last h, rest, fuel + 1, hfuel => by
      obtain ⟨blanks, hblanks, heq⟩ :=
        readValue_of_spells h (follows_cons (c := ']') (by decide) rest) (by omega : _ ≤ fuel)
      exact readItems_last hblanks heq
  | _, _, @SpellsItems.more _ _ _ text h hitems, rest, fuel + 1, hfuel => by
      simp only [List.length_append, List.length_cons] at hfuel
      obtain ⟨blanks, hblanks, heq⟩ := readValue_of_spells h
        (follows_cons (c := ',') (by decide) (text ++ ']' :: rest)) (by omega : _ ≤ fuel)
      rw [List.append_assoc, List.cons_append, readItems_more hblanks heq,
        readItems_of_spells hitems rest (by omega : _ ≤ fuel)]

theorem readMembers_of_spells : ∀ {members : List (Json × Json)} {text : List Char},
    SpellsMembers members text → ∀ (rest : List Char) {fuel : Nat}, 2 * text.length + 1 ≤ fuel →
      readMembers fuel (text ++ '\x7d' :: rest) = (members, some rest)
  | _, _, @SpellsMembers.last _ _ _ text hkey h, rest, fuel + 1, hfuel => by
      simp only [List.length_append, List.length_cons] at hfuel
      obtain ⟨blanks, hblanks, heq⟩ := readValue_of_spells hkey
        (follows_cons (c := ':') (by decide) (text ++ '\x7d' :: rest)) (by omega : _ ≤ fuel)
      obtain ⟨blanks', hblanks', heq'⟩ := readValue_of_spells h
        (follows_cons (c := '\x7d') (by decide) rest) (by omega : _ ≤ fuel)
      rw [List.append_assoc, List.cons_append, readMembers_last hblanks hblanks' heq heq']
  | _, _, @SpellsMembers.more _ _ _ _ own text hkey h hmembers, rest, fuel + 1, hfuel => by
      simp only [List.length_append, List.length_cons] at hfuel
      obtain ⟨blanks, hblanks, heq⟩ := readValue_of_spells hkey
        (follows_cons (c := ':') (by decide) (own ++ ',' :: (text ++ '\x7d' :: rest)))
        (by omega : _ ≤ fuel)
      obtain ⟨blanks', hblanks', heq'⟩ := readValue_of_spells h
        (follows_cons (c := ',') (by decide) (text ++ '\x7d' :: rest)) (by omega : _ ≤ fuel)
      simp only [List.append_assoc, List.cons_append]
      rw [readMembers_more hblanks hblanks' heq heq',
        readMembers_of_spells hmembers rest (by omega : _ ≤ fuel)]

end

/-- A text that spells a value is read as that value, and ends after it. -/
theorem read_of_spells {j : Json} {text : String} (h : Spells j text.toList) :
    Json.read text = ⟨j, true⟩ := by
  have hend : Follows [] := by simp [Follows]
  obtain ⟨blanks, hblanks, heq⟩ :=
    readValue_of_spells h hend (by rw [String.length_toList]; omega : _ ≤ 2 * text.length + 2)
  rw [List.append_nil] at heq
  have hskip := skipSpace_append hblanks []
  simp only [Json.read, heq, hskip]
  rfl

theorem spells_unique {j k : Json} {text : List Char} (hj : Spells j text) (hk : Spells k text) :
    j = k := by
  rw [← String.toList_ofList (l := text)] at hj hk
  have hread := (read_of_spells hj).symm.trans (read_of_spells hk)
  exact congrArg Document.value hread

end NamespacePolicy.Proofs.JsonGrammar
