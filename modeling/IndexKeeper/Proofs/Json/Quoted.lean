import IndexKeeper.Json.Printer
import IndexKeeper.Proofs.Json.Spelling

/-!
# Reading texts that were written

A text is read back from its quoted form, whatever follows it: `readText_quoted`.  What is written
for a character stands for the bytes of that character, whether it is written as it is, by a letter
or by its number (`unescapes_escapeChar`).
-/

namespace IndexKeeper

/-- The bytes of characters. -/
abbrev Utf8.ofChars (cs : List Char) : List UInt8 := cs.flatMap String.utf8EncodeChar

namespace Json

open Cursor
open Utf8 (ofChars)

/-! ## Bytes of characters -/

theorem ofChars_append (cs ds : List Char) : ofChars (cs ++ ds) = ofChars cs ++ ofChars ds :=
  List.flatMap_append

/-- A character of ASCII is one byte. -/
theorem utf8EncodeChar_of_ascii {c : Char} (h : c.toNat ≤ 0x7F) :
    String.utf8EncodeChar c = [byte c] := by
  have hv : c.val.toNat ≤ 127 := h
  rw [String.utf8EncodeChar]
  simp only [hv, if_true]
  rfl

theorem ofChars_of_ascii {cs : List Char} (h : ∀ c ∈ cs, c.toNat ≤ 0x7F) :
    ofChars cs = cs.map byte := by
  induction cs with
  | nil => rfl
  | cons c rest ih =>
    rw [ofChars, List.flatMap_cons, utf8EncodeChar_of_ascii (h c List.mem_cons_self),
      List.singleton_append, List.map_cons, ← ih fun d hd => h d (List.mem_cons_of_mem c hd)]

/-- The bytes of a character beyond ASCII are beyond ASCII. -/
theorem le_of_mem_utf8EncodeChar {c : Char} (h : 0x7F < c.toNat) {b : UInt8}
    (hb : b ∈ String.utf8EncodeChar c) : 0x80 ≤ b.toNat := by
  have hv : ¬ c.val.toNat ≤ 127 := Nat.not_le_of_lt h
  obtain ⟨hlast, _⟩ := Utf8.bounds_of_char c
  rw [String.utf8EncodeChar] at hb
  simp only [hv, if_false] at hb
  split at hb
  · simp only [List.mem_cons, List.not_mem_nil, or_false] at hb
    rcases hb with rfl | rfl <;> rw [UInt8.toNat_ofNat'] <;> omega
  · split at hb
    · simp only [List.mem_cons, List.not_mem_nil, or_false] at hb
      rcases hb with rfl | rfl | rfl <;> rw [UInt8.toNat_ofNat'] <;> omega
    · simp only [List.mem_cons, List.not_mem_nil, or_false] at hb
      rcases hb with rfl | rfl | rfl | rfl <;> rw [UInt8.toNat_ofNat'] <;> omega

/-! ## Characters as they are -/

theorem isPlain_of_le {b : UInt8} (h : 0x80 ≤ b.toNat) : IsPlain b := by
  refine ⟨?_, ?_, ?_⟩
  · rintro rfl
    exact absurd h (by decide)
  · rintro rfl
    exact absurd h (by decide)
  · rw [UInt8.lt_iff_toNat_lt]
    simp only [UInt8.reduceToNat]
    omega

theorem isPlain_byte {c : Char} (hlow : 0x20 ≤ c.toNat) (hhigh : c.toNat ≤ 0x7F)
    (hquote : c ≠ '"') (hbackslash : c ≠ '\\') : IsPlain (byte c) := by
  have hbyte : (byte c).toNat = c.toNat := Utf8.toNat_ofNat_of_lt (by omega)
  have hinj : ∀ d : Char, d.toNat ≤ 0x7F → byte c = byte d → c = d := by
    intro d hd heq
    have hd' : (byte d).toNat = d.toNat := Utf8.toNat_ofNat_of_lt (by omega)
    rw [← Char.toNat_inj, ← hbyte, ← hd', heq]
  refine ⟨fun h => hquote (hinj '"' (by decide) h), fun h => hbackslash (hinj '\\' (by decide) h),
    ?_⟩
  rw [UInt8.lt_iff_toNat_lt, hbyte]
  simp only [UInt8.reduceToNat]
  omega

/-- A character that is written as it is has plain bytes only. -/
theorem isPlain_of_mem_utf8EncodeChar {c : Char} (hcontrol : 0x20 ≤ c.toNat) (hquote : c ≠ '"')
    (hbackslash : c ≠ '\\') : ∀ b ∈ String.utf8EncodeChar c, IsPlain b := by
  intro b hb
  by_cases hascii : c.toNat ≤ 0x7F
  · rw [utf8EncodeChar_of_ascii hascii, List.mem_singleton] at hb
    rw [hb]
    exact isPlain_byte hcontrol hascii hquote hbackslash
  · exact isPlain_of_le (le_of_mem_utf8EncodeChar (Nat.lt_of_not_le hascii) hb)

/-! ## Texts -/

/-- Plain bytes stand for themselves. -/
theorem unescapes_plain {bs raw cs : List UInt8} (hplain : ∀ b ∈ bs, IsPlain b)
    (h : Unescapes raw cs) : Unescapes (bs ++ raw) (bs ++ cs) := by
  induction bs with
  | nil => exact h
  | cons b rest ih =>
    exact .plain (hplain b List.mem_cons_self) (ih fun d hd => hplain d (List.mem_cons_of_mem b hd))

theorem unescapes_letter {letter ch : Char} (hmem : (letter, ch) ∈ letters) {raw bs : List UInt8}
    (h : Unescapes raw bs) :
    Unescapes (ofChars ['\\', letter] ++ raw) (String.utf8EncodeChar ch ++ bs) := by
  have hascii : ∀ e ∈ letters, ofChars ['\\', e.1] = [byte '\\', byte e.1] := by decide
  rw [hascii (letter, ch) hmem]
  exact .escape (.letter hmem) h

/-- A control character is written by its number. -/
theorem unescapes_control {ch : Char} (hcontrol : ch.toNat < 0x20) {raw bs : List UInt8}
    (h : Unescapes raw bs) :
    Unescapes (ofChars ['\\', 'u', '0', '0', hexDigit (ch.toNat / 16), hexDigit (ch.toNat % 16)] ++
      raw) (String.utf8EncodeChar ch ++ bs) := by
  have hascii : ∀ n < 0x20, ofChars ['\\', 'u', '0', '0', hexDigit (n / 16), hexDigit (n % 16)] =
      [byte '\\', byte 'u', byte '0', byte '0', byte (hexDigit (n / 16)),
        byte (hexDigit (n % 16))] := by
    decide
  have hdigit : ∀ d < 16, HexDigit (byte (hexDigit d)) d := by decide
  have hhex : Hex [byte '0', byte '0', byte (hexDigit (ch.toNat / 16)),
      byte (hexDigit (ch.toNat % 16))] ch.toNat := by
    have hnumber : ((0 * 16 + 0) * 16 + ch.toNat / 16) * 16 + ch.toNat % 16 = ch.toNat := by omega
    have hparts := Hex.mk (hdigit 0 (by decide)) (hdigit 0 (by decide))
      (hdigit (ch.toNat / 16) (by omega)) (hdigit (ch.toNat % 16) (by omega))
    rwa [hnumber] at hparts
  have hunit : Escape _ (Char.ofNat ch.toNat) := .unit hhex (by omega)
  rw [Char.ofNat_toNat] at hunit
  rw [hascii ch.toNat hcontrol]
  exact .escape hunit h

/-- Whatever way a character is written, it stands for its own bytes. -/
theorem unescapes_escapeChar (ch : Char) {raw bs : List UInt8} (h : Unescapes raw bs) :
    Unescapes (ofChars (escapeChar ch) ++ raw) (String.utf8EncodeChar ch ++ bs) := by
  rw [escapeChar.eq_def]
  split
  · exact unescapes_letter (by decide) h
  · exact unescapes_letter (by decide) h
  · exact unescapes_letter (by decide) h
  · exact unescapes_letter (by decide) h
  · exact unescapes_letter (by decide) h
  · exact unescapes_letter (by decide) h
  · exact unescapes_letter (by decide) h
  · next hquote hbackslash _ _ _ _ _ =>
    split
    · next hcontrol => exact unescapes_control hcontrol h
    · next hcontrol =>
      rw [ofChars, List.flatMap_singleton]
      exact unescapes_plain
        (isPlain_of_mem_utf8EncodeChar (Nat.le_of_not_lt hcontrol) hquote hbackslash) h

/-- The bytes between the quotes of a written text stand for the bytes of the text. -/
theorem unescapes_escaped (cs : List Char) :
    Unescapes (ofChars (cs.flatMap escapeChar)) (ofChars cs) := by
  induction cs with
  | nil => exact .nil
  | cons ch rest ih =>
    rw [List.flatMap_cons, ofChars_append]
    exact unescapes_escapeChar ch ih

theorem ofChars_quoted (s : String) :
    ofChars (quoted s) = byte '"' :: (ofChars (s.toList.flatMap escapeChar) ++ [byte '"']) := by
  rw [quoted, List.cons_append, ofChars, List.flatMap_cons, ← ofChars, ofChars_append]
  rfl

/-- A text is read back from its quoted form. -/
theorem readText_quoted (s : String) {c : Cursor} {tail : List UInt8}
    (hc : c.rest = ofChars (quoted s) ++ tail) :
    ∃ c', readText c.advance = .ok (s, c') ∧ c'.rest = tail := by
  refine readText_of_spells (unescapes_escaped s.toList) ?_
  rw [rest_advance, hc, ofChars_quoted, List.cons_append, List.tail_cons, List.append_assoc]
  rfl

end Json

end IndexKeeper
