import Mathlib.Data.List.TakeWhile
import NamespacePolicy.PolicyFile.Parse
import NamespacePolicy.Proofs.Ancestry

/-!
Where bytes stop being a text.  The longest text that some bytes begin with stands unchanged at the
front of what is shown for the bytes, whatever follows it.  So the first byte after it is reported
at the line and the column where that text ends.
-/

namespace NamespacePolicy.Proofs.FirstBadByte

open Text Text.Utf8

theorem continuation?_eq_some_iff {b : UInt8} {n : Nat} :
    continuation? b = some n ↔ b.toNat = 0x80 + n ∧ n < 0x40 := by
  simp only [continuation?, UInt8.le_iff_toNat_le, UInt8.lt_iff_toNat_lt, UInt8.reduceToNat]
  split
  · simp only [Option.some.injEq]
    omega
  · simp only [reduceCtorEq, false_iff]
    omega

theorem charOfCode?_eq_some_iff {least code : Nat} {c : Char} :
    charOfCode? least code = some c ↔ least ≤ code ∧ c.toNat = code := by
  by_cases h : least ≤ code ∧ code.isValidChar
  · have hcode : (Char.ofNatAux code h.2).toNat = code := rfl
    rw [charOfCode?, dif_pos h, Option.some.injEq, ← Char.toNat_inj, hcode, eq_comm]
    exact (and_iff_right h.1).symm
  · rw [charOfCode?, dif_neg h]
    simp only [reduceCtorEq, false_iff]
    rintro ⟨hleast, rfl⟩
    exact h ⟨hleast, c.valid⟩

/-- The bytes of a character: the first one says how many there are, and each further one holds six
bits.  No fewer bytes would do. -/
inductive BytesOf (c : Char) : List UInt8 → Prop
  | one {a : UInt8} (ha : a.toNat < 0x80) (hc : c.toNat = a.toNat) : BytesOf c [a]
  | two {a b : UInt8} {m : Nat} (ha : 0xC0 ≤ a.toNat ∧ a.toNat < 0xE0)
      (hb : continuation? b = some m) (hleast : 0x80 ≤ c.toNat)
      (hc : c.toNat = (a.toNat - 0xC0) * 64 + m) : BytesOf c [a, b]
  | three {a b d : UInt8} {m n : Nat} (ha : 0xE0 ≤ a.toNat ∧ a.toNat < 0xF0)
      (hb : continuation? b = some m) (hd : continuation? d = some n) (hleast : 0x800 ≤ c.toNat)
      (hc : c.toNat = ((a.toNat - 0xE0) * 64 + m) * 64 + n) : BytesOf c [a, b, d]
  | four {a b d e : UInt8} {m n k : Nat} (ha : 0xF0 ≤ a.toNat ∧ a.toNat < 0xF8)
      (hb : continuation? b = some m) (hd : continuation? d = some n)
      (he : continuation? e = some k) (hleast : 0x10000 ≤ c.toNat)
      (hc : c.toNat = (((a.toNat - 0xF0) * 64 + m) * 64 + n) * 64 + k) : BytesOf c [a, b, d, e]

theorem toNat_ofNat {n : Nat} (h : n < 0x100) : (UInt8.ofNat n).toNat = n := by
  rw [UInt8.toNat_ofNat', Nat.mod_eq_of_lt h]

theorem ofNat_eq_of_toNat {b : UInt8} {n : Nat} (h : b.toNat = n) : UInt8.ofNat n = b := by
  rw [← h, UInt8.ofNat_toNat]

theorem continuation?_ofNat {n : Nat} (h : n < 0x40) :
    continuation? (UInt8.ofNat (n + 0x80)) = some n :=
  continuation?_eq_some_iff.mpr ⟨by rw [toNat_ofNat (by omega), Nat.add_comm], h⟩

theorem bytesOf_utf8EncodeChar (c : Char) : BytesOf c (String.utf8EncodeChar c) := by
  have hmax : c.toNat < 0x110000 := by
    have h := c.valid
    change c.toNat < 0xD800 ∨ 0xDFFF < c.toNat ∧ c.toNat < 0x110000 at h
    omega
  simp only [String.utf8EncodeChar, Char.toNat_val]
  split
  · exact .one (by rw [toNat_ofNat] <;> omega) (by rw [toNat_ofNat]; omega)
  split
  · refine .two ?_ (continuation?_ofNat (by omega)) (by omega) ?_
    all_goals
      rw [toNat_ofNat (by omega)]
      omega
  split
  · refine .three ?_ (continuation?_ofNat (by omega)) (continuation?_ofNat (by omega)) (by omega) ?_
    all_goals
      rw [toNat_ofNat (by omega)]
      omega
  · refine .four ?_ (continuation?_ofNat (by omega)) (continuation?_ofNat (by omega))
      (continuation?_ofNat (by omega)) (by omega) ?_
    all_goals
      rw [toNat_ofNat (by omega)]
      omega

theorem BytesOf.eq_utf8EncodeChar {c : Char} {bytes : List UInt8} (h : BytesOf c bytes) :
    bytes = String.utf8EncodeChar c := by
  simp only [String.utf8EncodeChar, Char.toNat_val]
  cases h with
  | one ha hc => rw [if_pos (by omega), ofNat_eq_of_toNat hc.symm]
  | two ha hb hleast hc =>
      obtain ⟨hb, hm⟩ := continuation?_eq_some_iff.mp hb
      rw [if_neg (by omega), if_pos (by omega), List.cons.injEq, List.cons.injEq]
      refine ⟨(ofNat_eq_of_toNat ?_).symm, (ofNat_eq_of_toNat ?_).symm, rfl⟩ <;> omega
  | three ha hb hd hleast hc =>
      obtain ⟨hb, hm⟩ := continuation?_eq_some_iff.mp hb
      obtain ⟨hd, hn⟩ := continuation?_eq_some_iff.mp hd
      rw [if_neg (by omega), if_neg (by omega), if_pos (by omega), List.cons.injEq,
        List.cons.injEq, List.cons.injEq]
      refine ⟨(ofNat_eq_of_toNat ?_).symm, (ofNat_eq_of_toNat ?_).symm,
        (ofNat_eq_of_toNat ?_).symm, rfl⟩ <;> omega
  | four ha hb hd he hleast hc =>
      obtain ⟨hb, hm⟩ := continuation?_eq_some_iff.mp hb
      obtain ⟨hd, hn⟩ := continuation?_eq_some_iff.mp hd
      obtain ⟨he, hk⟩ := continuation?_eq_some_iff.mp he
      rw [if_neg (by omega), if_neg (by omega), if_neg (by omega), List.cons.injEq,
        List.cons.injEq, List.cons.injEq, List.cons.injEq]
      refine ⟨(ofNat_eq_of_toNat ?_).symm, (ofNat_eq_of_toNat ?_).symm,
        (ofNat_eq_of_toNat ?_).symm, (ofNat_eq_of_toNat ?_).symm, rfl⟩ <;> omega

theorem BytesOf.decodeChar?_append {c : Char} {bytes : List UInt8} (h : BytesOf c bytes)
    (rest : List UInt8) : decodeChar? (bytes ++ rest) = some (c, rest) := by
  cases h with
  | one ha hc =>
      have hchar := charOfCode?_eq_some_iff.mpr ⟨Nat.zero_le _, hc⟩
      simp [decodeChar?, UInt8.lt_iff_toNat_lt, ha, hchar]
  | @two a b m ha hb hleast hc =>
      have hchar := charOfCode?_eq_some_iff.mpr ⟨hc ▸ hleast, hc⟩
      have h80 : ¬ a.toNat < 0x80 := by omega
      have hC0 : ¬ a.toNat < 0xC0 := by omega
      simp [decodeChar?, UInt8.lt_iff_toNat_lt, h80, hC0, ha.2, hb, hchar]
  | @three a b d m n ha hb hd hleast hc =>
      have hchar := charOfCode?_eq_some_iff.mpr ⟨hc ▸ hleast, hc⟩
      have h80 : ¬ a.toNat < 0x80 := by omega
      have hC0 : ¬ a.toNat < 0xC0 := by omega
      have hE0 : ¬ a.toNat < 0xE0 := by omega
      simp [decodeChar?, UInt8.lt_iff_toNat_lt, h80, hC0, hE0, ha.2, hb, hd, hchar]
  | @four a b d e m n k ha hb hd he hleast hc =>
      have hchar := charOfCode?_eq_some_iff.mpr ⟨hc ▸ hleast, hc⟩
      have h80 : ¬ a.toNat < 0x80 := by omega
      have hC0 : ¬ a.toNat < 0xC0 := by omega
      have hE0 : ¬ a.toNat < 0xE0 := by omega
      have hF0 : ¬ a.toNat < 0xF0 := by omega
      simp [decodeChar?, UInt8.lt_iff_toNat_lt, h80, hC0, hE0, hF0, ha.2, hb, hd, he, hchar]

theorem exists_bytesOf {bytes rest : List UInt8} {c : Char}
    (h : decodeChar? bytes = some (c, rest)) : ∃ own, BytesOf c own ∧ bytes = own ++ rest := by
  revert h
  fun_cases decodeChar? bytes with
  | case2 a left h80 =>
      intro h
      obtain ⟨_, hchar, heq⟩ := Option.map_eq_some_iff.mp h
      cases heq
      exact ⟨_, .one h80 (charOfCode?_eq_some_iff.mp hchar).2, rfl⟩
  | case4 a h80 hC0 hE0 b left =>
      intro h
      obtain ⟨m, hb, h⟩ := Option.bind_eq_some_iff.mp h
      obtain ⟨_, hchar, heq⟩ := Option.bind_eq_some_iff.mp h
      cases heq
      obtain ⟨hleast, hc⟩ := charOfCode?_eq_some_iff.mp hchar
      exact ⟨_, .two ⟨UInt8.not_lt.mp hC0, hE0⟩ hb (hc ▸ hleast) hc, rfl⟩
  | case6 a h80 hC0 hE0 hF0 b d left =>
      intro h
      obtain ⟨m, hb, h⟩ := Option.bind_eq_some_iff.mp h
      obtain ⟨n, hd, h⟩ := Option.bind_eq_some_iff.mp h
      obtain ⟨_, hchar, heq⟩ := Option.bind_eq_some_iff.mp h
      cases heq
      obtain ⟨hleast, hc⟩ := charOfCode?_eq_some_iff.mp hchar
      exact ⟨_, .three ⟨UInt8.not_lt.mp hE0, hF0⟩ hb hd (hc ▸ hleast) hc, rfl⟩
  | case8 a h80 hC0 hE0 hF0 hF8 b d e left =>
      intro h
      obtain ⟨m, hb, h⟩ := Option.bind_eq_some_iff.mp h
      obtain ⟨n, hd, h⟩ := Option.bind_eq_some_iff.mp h
      obtain ⟨k, he, h⟩ := Option.bind_eq_some_iff.mp h
      obtain ⟨_, hchar, heq⟩ := Option.bind_eq_some_iff.mp h
      cases heq
      obtain ⟨hleast, hc⟩ := charOfCode?_eq_some_iff.mp hchar
      exact ⟨_, .four ⟨UInt8.not_lt.mp hF0, hF8⟩ hb hd he (hc ▸ hleast) hc, rfl⟩
  | _ => simp

theorem decodeChar?_eq_some_iff {bytes rest : List UInt8} {c : Char} :
    decodeChar? bytes = some (c, rest) ↔ bytes = String.utf8EncodeChar c ++ rest := by
  constructor
  · intro h
    obtain ⟨own, hown, rfl⟩ := exists_bytesOf h
    rw [hown.eq_utf8EncodeChar]
  · rintro rfl
    exact (bytesOf_utf8EncodeChar c).decodeChar?_append rest

/-- The bytes begin with the text, and with no text that has more bytes. -/
structure IsLongest (bytes : List UInt8) (text : List Char) : Prop where
  begins : encode text <+: bytes
  length_le : ∀ other, encode other <+: bytes → (encode other).length ≤ (encode text).length

theorem encode_cons (c : Char) (text : List Char) :
    encode (c :: text) = String.utf8EncodeChar c ++ encode text :=
  rfl

theorem size_eq (text : List Char) : size text = (encode text).length := by
  induction text with
  | nil => rfl
  | cons c text ih => rw [size, ih, encode_cons, List.length_append, String.length_utf8EncodeChar]

/-- With fuel for every byte, reading stops only where no character begins. -/
theorem decodeFrom_stops {fuel : Nat} {bytes : List UInt8} (h : bytes.length ≤ fuel) :
    bytes = encode (decodeFrom fuel bytes).1 ++ (decodeFrom fuel bytes).2 ∧
      decodeChar? (decodeFrom fuel bytes).2 = none := by
  induction fuel generalizing bytes with
  | zero =>
      obtain rfl := List.length_eq_zero_iff.mp (Nat.le_zero.mp h)
      exact ⟨rfl, rfl⟩
  | succ fuel ih =>
      cases hchar : decodeChar? bytes with
      | none =>
          have hfrom : decodeFrom (fuel + 1) bytes = ([], bytes) := by rw [decodeFrom, hchar]
          rw [hfrom]
          exact ⟨rfl, hchar⟩
      | some read =>
          obtain ⟨c, rest⟩ := read
          have hfrom : decodeFrom (fuel + 1) bytes =
              (c :: (decodeFrom fuel rest).1, (decodeFrom fuel rest).2) := by
            rw [decodeFrom, hchar]
          have hbytes := decodeChar?_eq_some_iff.mp hchar
          have hrest : rest.length ≤ fuel := by
            have hpos := c.utf8Size_pos
            rw [hbytes, List.length_append, String.length_utf8EncodeChar] at h
            omega
          obtain ⟨heq, hnone⟩ := ih hrest
          rw [hfrom]
          refine ⟨?_, hnone⟩
          rw [encode_cons, List.append_assoc, ← heq]
          exact hbytes

theorem decodeLongest_stops (bytes : List UInt8) :
    bytes = encode (decodeLongest bytes).1 ++ (decodeLongest bytes).2 ∧
      decodeChar? (decodeLongest bytes).2 = none :=
  decodeFrom_stops (Nat.le_refl _)

theorem isLongest_decodeLongest (bytes : List UInt8) :
    IsLongest bytes (decodeLongest bytes).1 := by
  obtain ⟨hbytes, hnone⟩ := decodeLongest_stops bytes
  have hown : encode (decodeLongest bytes).1 <+: bytes := ⟨_, hbytes.symm⟩
  refine ⟨hown, fun other hother => ?_⟩
  rcases List.prefix_or_prefix_of_prefix hother hown with hle | hle
  · exact hle.length_le
  · obtain ⟨more, rfl⟩ := Ancestry.encode_prefix_iff.mp hle
    cases more with
    | nil => rw [List.append_nil]
    | cons c more =>
        -- The character after the text would have been read as well.
        obtain ⟨rest, hrest⟩ := hother
        have hleft : (decodeLongest bytes).2 =
            String.utf8EncodeChar c ++ (encode more ++ rest) := by
          have heq := hrest.trans hbytes
          rw [encode, List.flatMap_append, List.append_assoc] at heq
          simpa [encode] using (List.append_cancel_left heq).symm
        rw [decodeChar?_eq_some_iff.mpr hleft] at hnone
        cases hnone

theorem decodeLongest_snd_eq_nil_iff (bytes : List UInt8) :
    (decodeLongest bytes).2 = [] ↔ ∃ text, encode text = bytes := by
  obtain ⟨hbytes, -⟩ := decodeLongest_stops bytes
  constructor
  · intro hnil
    rw [hnil, List.append_nil] at hbytes
    exact ⟨_, hbytes.symm⟩
  · rintro ⟨text, rfl⟩
    have hle := (isLongest_decodeLongest (encode text)).length_le text (List.prefix_refl _)
    have hlength := congrArg List.length hbytes
    rw [List.length_append] at hlength
    exact List.length_eq_zero_iff.mp (by omega)

/-- The text at the front is shown as it is. -/
theorem lossyFrom_append (fuel : Nat) (text : List Char) (left : List UInt8) :
    lossyFrom (fuel + text.length) (encode text ++ left) = text ++ lossyFrom fuel left := by
  induction text with
  | nil => rfl
  | cons c text ih =>
      have hchar := decodeChar?_eq_some_iff.mpr
        (List.append_assoc (String.utf8EncodeChar c) (encode text) left)
      rw [encode_cons, List.length_cons, ← Nat.add_assoc]
      rw [lossyFrom, hchar]
      · exact congrArg (c :: ·) ih
      · intro hnil
        rw [hnil] at hchar
        cases hchar

theorem length_le_encode (text : List Char) : text.length ≤ (encode text).length := by
  induction text with
  | nil => exact Nat.le_refl _
  | cons c text ih =>
      have hpos := c.utf8Size_pos
      rw [encode_cons, List.length_append, List.length_cons, String.length_utf8EncodeChar]
      omega

theorem exists_lossy_eq_append (bytes : List UInt8) :
    ∃ more, lossy bytes = (decodeLongest bytes).1 ++ more := by
  obtain ⟨hbytes, -⟩ := decodeLongest_stops bytes
  have hlength := congrArg List.length hbytes
  have hle := length_le_encode (decodeLongest bytes).1
  rw [List.length_append] at hlength
  obtain ⟨fuel, hfuel⟩ : ∃ fuel, bytes.length = fuel + (decodeLongest bytes).1.length :=
    ⟨_, (Nat.sub_add_cancel (by omega)).symm⟩
  have hshown := lossyFrom_append fuel (decodeLongest bytes).1 (decodeLongest bytes).2
  rw [← hbytes, ← hfuel] at hshown
  exact ⟨_, hshown⟩

theorem before?_append (text more : List Char) :
    before? (text ++ more) (size text) = some text := by
  induction text with
  | nil => cases more <;> rfl
  | cons c text ih =>
      have hpos := c.utf8Size_pos
      rw [List.cons_append, before?, size, if_pos (Nat.le_add_right _ _),
        Nat.add_sub_cancel_left, ih, Option.map_some]
      rw [size]
      omega

theorem ofOffset_append (text more : List Char) :
    Position.ofOffset (text ++ more) (size text) = .after text := by
  rw [Position.ofOffset, before?_append, Option.getD_some]

/-- The text ends in the given characters, which follow the last line break if there is one. -/
structure IsLastLine (text last : List Char) : Prop where
  not_mem : '\n' ∉ last
  isEnd : text = last ∨ ∃ before, text = before ++ '\n' :: last

theorem exists_isLastLine (text : List Char) : ∃ last, IsLastLine text last := by
  induction text with
  | nil => exact ⟨[], by simp, .inl rfl⟩
  | cons c text ih =>
      obtain ⟨last, hnot, rfl | ⟨before, rfl⟩⟩ := ih
      · by_cases hc : c = '\n'
        · exact ⟨text, hnot, .inr ⟨[], by rw [hc, List.nil_append]⟩⟩
        · exact ⟨c :: text, by simp [hnot, Ne.symm hc], .inl rfl⟩
      · exact ⟨last, hnot, .inr ⟨c :: before, rfl⟩⟩

theorem IsLastLine.after_eq {text last : List Char} (h : IsLastLine text last) :
    Position.after text = ⟨text.count '\n' + 1, last.length + 1⟩ := by
  have htake : text.reverse.takeWhile (· ≠ '\n') = last.reverse := by
    have hlast : ∀ c ∈ last.reverse, decide (c ≠ '\n') = true := by
      intro c hc
      rw [decide_eq_true_eq]
      rintro rfl
      exact h.not_mem (List.mem_reverse.mp hc)
    rcases h.isEnd with rfl | ⟨before, rfl⟩
    · exact List.takeWhile_eq_self_iff.mpr hlast
    · rw [List.reverse_append, List.reverse_cons, List.append_assoc,
        List.takeWhile_append_of_pos hlast]
      simp
  rw [Position.after, htake, List.length_reverse]

/-- Of a file whose bytes are no text, the first byte after the longest text at its front is
reported, by its own offset and by the line and the column at the end of that text. -/
theorem draft_of_not_text {files : Files} {path : Path} {bytes : List UInt8}
    (hread : files.read path = .ok bytes) (hbytes : ∀ text, encode text ≠ bytes) :
    ∃ text last, IsLongest bytes text ∧ IsLastLine text last ∧
      files.draft path = .error ⟨path, .encoding ⟨1 + text.count '\n', 1 + last.length⟩
        ⟨(encode text).length, (encode text).length + 1⟩⟩ := by
  obtain ⟨last, hlast⟩ := exists_isLastLine (decodeLongest bytes).1
  refine ⟨_, last, isLongest_decodeLongest bytes, hlast, ?_⟩
  obtain ⟨more, hshown⟩ := exists_lossy_eq_append bytes
  have hleft : (decodeLongest bytes).2 ≠ [] := by
    intro hnil
    obtain ⟨text, htext⟩ := (decodeLongest_snd_eq_nil_iff bytes).mp hnil
    exact hbytes text htext
  have hposition : Position.ofOffset (lossy bytes) (size (decodeLongest bytes).1) =
      ⟨1 + (decodeLongest bytes).1.count '\n', 1 + last.length⟩ := by
    rw [hshown, ofOffset_append, hlast.after_eq, Nat.add_comm, Nat.add_comm last.length]
  have hparse : PolicyFault.parseBytes bytes =
      .error (.encoding (.ofOffset (lossy bytes) (size (decodeLongest bytes).1))
        ⟨size (decodeLongest bytes).1, size (decodeLongest bytes).1 + 1⟩) := by
    rw [PolicyFault.parseBytes]
    split
    · next h => exact absurd (congrArg Prod.snd h) hleft
    · next h => rw [h]
  rw [Files.draft, hread]
  simp only [hparse]
  rw [hposition, size_eq]
  rfl

/-- A cut off character on the second line, with a line break and more bad bytes after it. -/
theorem cut_off_character_reported :
    let bytes : List UInt8 := [0x61, 0x0A, 0xC3, 0xA4, 0xF0, 0x9F, 0x98, 0x0A, 0xFF]
    let files : Files :=
      { canonical? := fun _ => none
        fingerprint? := fun _ => none
        read := fun _ => .ok bytes }
    (∀ text, encode text ≠ bytes) ∧ lossy bytes = ['a', '\n', 'ä', '\uFFFD', '\n', '\uFFFD'] ∧
      ∃ text last, IsLongest bytes text ∧ IsLastLine text last ∧
        files.draft ⟨"/p.toml"⟩ =
          .error ⟨⟨"/p.toml"⟩, .encoding ⟨1 + text.count '\n', 1 + last.length⟩
            ⟨(encode text).length, (encode text).length + 1⟩⟩ ∧
        files.draft ⟨"/p.toml"⟩ = .error ⟨⟨"/p.toml"⟩, .encoding ⟨2, 2⟩ ⟨4, 5⟩⟩ := by
  intro bytes files
  have hbytes : ∀ text, encode text ≠ bytes := by
    intro text htext
    exact absurd ((decodeLongest_snd_eq_nil_iff bytes).mpr ⟨text, htext⟩) (by decide +kernel)
  have hread : files.read ⟨"/p.toml"⟩ = .ok bytes := rfl
  obtain ⟨text, last, hlongest, hlast, hdraft⟩ := draft_of_not_text hread hbytes
  exact ⟨hbytes, by decide +kernel, text, last, hlongest, hlast, hdraft, rfl⟩

end NamespacePolicy.Proofs.FirstBadByte
