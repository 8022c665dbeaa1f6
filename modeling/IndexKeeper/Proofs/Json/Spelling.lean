import IndexKeeper.Proofs.Json.Cursor
import IndexKeeper.Proofs.Text.Utf8

/-!
# Texts as they are spelled

The reader of quoted texts takes in what `Unescapes` spells, and nothing else: it answers a text
exactly if the bytes up to the closing quote stand for the bytes of this text (`spells_of_readText`,
`readText_of_spells`).  One escape at a time, the reader collects the bytes of the character that
`Escape` names.
-/

namespace IndexKeeper.Json

open Cursor

variable {c c' : Cursor} {b : UInt8} {tail : List UInt8}

/-! ## Hexadecimal digits -/

theorem hexDigit?_of_hexDigit {d : Nat} (h : HexDigit b d) : hexDigit? b = some d := by
  have hlower : ∀ d < 16, (ascii "0123456789abcdef")[d]?.bind hexDigit? = some d := by decide
  have hupper : ∀ d < 16, (ascii "0123456789ABCDEF")[d]?.bind hexDigit? = some d := by decide
  rcases h with h | h
  · have hd : d < 16 := (List.getElem?_eq_some_iff.mp h).1
    exact (congrArg (Option.bind · hexDigit?) h).symm.trans (hlower d hd)
  · have hd : d < 16 := (List.getElem?_eq_some_iff.mp h).1
    exact (congrArg (Option.bind · hexDigit?) h).symm.trans (hupper d hd)

theorem hexDigit_of_hexDigit? {d : Nat} (h : hexDigit? b = some d) : HexDigit b d := by
  have hall : ∀ n < 256, (hexDigit? (UInt8.ofNat n)).all
      (fun d => decide (HexDigit (UInt8.ofNat n) d)) = true := by
    decide +kernel
  have hb := hall b.toNat b.toNat_lt
  rw [UInt8.ofNat_toNat, h] at hb
  exact of_decide_eq_true hb

theorem hex_of_readHex {n : Nat} (h : readHex c = .ok (n, c')) :
    ∃ digits, Hex digits n ∧ c.Spans digits c' := by
  rw [readHex] at h
  split at h
  · next b₁ b₂ b₃ b₄ rest hrest =>
    split at h
    · next d₁ d₂ d₃ d₄ h₁ h₂ h₃ h₄ =>
      cases h
      refine ⟨[b₁, b₂, b₃, b₄], .mk (hexDigit_of_hexDigit? h₁) (hexDigit_of_hexDigit? h₂)
        (hexDigit_of_hexDigit? h₃) (hexDigit_of_hexDigit? h₄), ?_⟩
      rw [Spans, rest_advanceBy, hrest]
      rfl
    · cases h
  · cases h

theorem readHex_of_hex {digits : List UInt8} {n : Nat} (h : Hex digits n)
    (hc : c.rest = digits ++ tail) : ∃ c', readHex c = .ok (n, c') ∧ c'.rest = tail := by
  cases h with
  | mk h₁ h₂ h₃ h₄ =>
    refine ⟨c.advanceBy 4, ?_, ?_⟩
    · rw [readHex, hc]
      simp only [List.cons_append, hexDigit?_of_hexDigit h₁, hexDigit?_of_hexDigit h₂,
        hexDigit?_of_hexDigit h₃, hexDigit?_of_hexDigit h₄]
    · rw [rest_advanceBy, hc]
      rfl

/-! ## Escapes -/

theorem escapeLetter?_of_mem {l ch : Char} (h : (l, ch) ∈ letters) :
    byte l ≠ byte 'u' ∧ escapeLetter? (byte l) = some ch := by
  have hall : ∀ e ∈ letters, byte e.1 ≠ byte 'u' ∧ escapeLetter? (byte e.1) = some e.2 := by
    decide
  exact hall (l, ch) h

theorem exists_of_escapeLetter? {ch : Char} (h : escapeLetter? b = some ch) :
    ∃ l, (l, ch) ∈ letters ∧ b = byte l := by
  obtain ⟨⟨l, c⟩, hmem, hfound⟩ := List.exists_of_findSome?_eq_some h
  obtain ⟨hb, heq⟩ := Option.ite_none_right_eq_some.mp hfound
  cases heq
  exact ⟨l, hmem, hb⟩

theorem spans_of_readPairByte {a : UInt8} (h : readPairByte a c = .ok c') : c.Spans [a] c' := by
  rw [readPairByte] at h
  split at h
  · cases h
  · next b hb =>
    split at h
    · next heq =>
      cases h
      exact heq ▸ .advance hb
    · cases h

theorem readPairByte_of_rest (hc : c.rest = b :: tail) : readPairByte b c = .ok c.advance := by
  rw [readPairByte, peek?_of_rest hc]
  exact if_pos rfl

/-- A character by its number: a unit that is no surrogate, or a pair of surrogates. -/
theorem escape_of_readUnitEscape {ch : Char} (h : readUnitEscape c = .ok (ch, c')) :
    ∃ esc, Escape (byte 'u' :: esc) ch ∧ c.Spans esc c' := by
  obtain ⟨⟨n, c₁⟩, hread, h⟩ := bind_eq_ok_iff.mp h
  obtain ⟨high, hhigh, hspans⟩ := hex_of_readHex hread
  simp only at h
  split at h
  · cases h
  · next hnot =>
    split at h
    · next hunit =>
      cases h
      exact ⟨high, .unit hhigh (by omega), hspans⟩
    · next hpair =>
      obtain ⟨c₂, hbackslash, h⟩ := bind_eq_ok_iff.mp h
      obtain ⟨c₃, hletter, h⟩ := bind_eq_ok_iff.mp h
      obtain ⟨⟨m, c₄⟩, hread', h⟩ := bind_eq_ok_iff.mp h
      obtain ⟨low, hlow, hspans'⟩ := hex_of_readHex hread'
      simp only at h
      split at h
      · cases h
      · next hrange =>
        simp only [pure, Except.pure, Except.ok.injEq, Prod.mk.injEq] at h
        obtain ⟨rfl, rfl⟩ := h
        refine ⟨_, .pair hhigh (by omega) hlow (by omega), hspans.trans ?_⟩
        exact (spans_of_readPairByte hbackslash).trans
          ((spans_of_readPairByte hletter).trans hspans')

theorem readUnitEscape_of_unit {digits : List UInt8} {n : Nat} (hd : Hex digits n)
    (hn : n < 0xD800 ∨ 0xDFFF < n) (hc : c.rest = digits ++ tail) :
    ∃ c', readUnitEscape c = .ok (Char.ofNat n, c') ∧ c'.rest = tail := by
  obtain ⟨c', hread, hrest⟩ := readHex_of_hex hd hc
  have hnot : ¬ (0xDC00 ≤ n ∧ n ≤ 0xDFFF) := by omega
  have hunit : n < 0xD800 ∨ 0xDBFF < n := by omega
  refine ⟨c', ?_, hrest⟩
  rw [readUnitEscape, hread]
  simp only [bind, Except.bind, hnot, hunit, if_false, if_true]
  rfl

theorem readUnitEscape_of_pair {high low : List UInt8} {n m : Nat} (hhigh : Hex high n)
    (hn : 0xD800 ≤ n ∧ n < 0xDC00) (hlow : Hex low m) (hm : 0xDC00 ≤ m ∧ m < 0xE000)
    (hc : c.rest = high ++ byte '\\' :: byte 'u' :: (low ++ tail)) :
    ∃ c', readUnitEscape c =
        .ok (Char.ofNat (0x10000 + (n - 0xD800) * 0x400 + (m - 0xDC00)), c') ∧
      c'.rest = tail := by
  obtain ⟨c₁, hread, hrest₁⟩ := readHex_of_hex hhigh hc
  have hrest₂ := rest_advance_of_rest hrest₁
  obtain ⟨c', hread', hrest⟩ := readHex_of_hex hlow (rest_advance_of_rest hrest₂)
  have hnot : ¬ (0xDC00 ≤ n ∧ n ≤ 0xDFFF) := by omega
  have hpair : ¬ (n < 0xD800 ∨ 0xDBFF < n) := by omega
  have hrange : ¬ (m < 0xDC00 ∨ 0xDFFF < m) := by omega
  refine ⟨c', ?_, hrest⟩
  rw [readUnitEscape, hread]
  simp only [bind, Except.bind, hnot, hpair, if_false, readPairByte_of_rest hrest₁,
    readPairByte_of_rest hrest₂, hread', hrange]
  rfl

/-- The reader of escapes reads escapes, with the character that each stands for. -/
theorem escape_of_readEscape {ch : Char} (h : readEscape c = .ok (ch, c')) :
    ∃ esc, Escape esc ch ∧ c.Spans esc c' := by
  rw [readEscape] at h
  split at h
  · cases h
  · next b hb =>
    split at h
    · next hu =>
      subst hu
      obtain ⟨esc, hesc, hspans⟩ := escape_of_readUnitEscape h
      exact ⟨_, hesc, .cons hb hspans⟩
    · split at h
      · next c₁ hletter =>
        cases h
        obtain ⟨l, hmem, rfl⟩ := exists_of_escapeLetter? hletter
        exact ⟨_, .letter hmem, .advance hb⟩
      · cases h

theorem readEscape_of_escape {esc : List UInt8} {ch : Char} (h : Escape esc ch)
    (hc : c.rest = esc ++ tail) : ∃ c', readEscape c = .ok (ch, c') ∧ c'.rest = tail := by
  cases h with
  | letter hl =>
    obtain ⟨hnot, hletter⟩ := escapeLetter?_of_mem hl
    refine ⟨c.advance, ?_, rest_advance_of_rest hc⟩
    rw [readEscape, peek?_of_rest hc]
    simp only [hnot, if_false, hletter]
  | unit hd hn =>
    obtain ⟨c', hread, hrest⟩ := readUnitEscape_of_unit hd hn (rest_advance_of_rest hc)
    refine ⟨c', ?_, hrest⟩
    rw [readEscape, peek?_of_rest hc]
    simp only [if_true, hread]
  | pair hhigh hn hlow hm =>
    rw [List.cons_append, List.append_assoc] at hc
    obtain ⟨c', hread, hrest⟩ :=
      readUnitEscape_of_pair hhigh hn hlow hm (rest_advance_of_rest hc)
    refine ⟨c', ?_, hrest⟩
    rw [readEscape, peek?_of_rest hc]
    simp only [if_true, hread]

/-! ## Texts -/

/-- What is collected up to the closing quote are the bytes that the bytes read stand for. -/
theorem unescapes_of_readTextBytes {fuel : Nat} {acc bs : List UInt8}
    (h : readTextBytes fuel acc c = .ok (bs, c')) :
    ∃ raw new, bs = acc.reverse ++ new ∧ Unescapes raw new ∧ c.Spans (raw ++ [byte '"']) c' := by
  induction fuel generalizing acc c with
  | zero => cases h
  | succ fuel ih =>
    rw [readTextBytes] at h
    split at h
    · cases h
    · next b hb =>
      split at h
      · next hquote =>
        cases h
        exact ⟨[], [], (List.append_nil _).symm, .nil, hquote ▸ .advance hb⟩
      · next hquote =>
        split at h
        · next hbackslash =>
          subst hbackslash
          split at h
          · cases h
          · next ch c₁ hread =>
            obtain ⟨esc, hesc, hspans⟩ := escape_of_readEscape hread
            obtain ⟨raw, new, rfl, hraw, hspans'⟩ := ih h
            refine ⟨_, _, ?_, .escape hesc hraw, ?_⟩
            · simp
            · rw [List.cons_append, List.append_assoc]
              exact .cons hb (hspans.trans hspans')
        · next hbackslash =>
          split at h
          · cases h
          · next hcontrol =>
            obtain ⟨raw, new, rfl, hraw, hspans⟩ := ih h
            refine ⟨_, _, ?_, .plain ⟨hquote, hbackslash, hcontrol⟩ hraw, .cons hb hspans⟩
            simp

theorem readTextBytes_of_unescapes {raw bs : List UInt8} (h : Unescapes raw bs) {fuel : Nat}
    (hfuel : raw.length < fuel) (acc : List UInt8) (hc : c.rest = raw ++ byte '"' :: tail) :
    ∃ c', readTextBytes fuel acc c = .ok (acc.reverse ++ bs, c') ∧ c'.rest = tail := by
  have hnot : byte '\\' ≠ byte '"' := by decide
  induction h generalizing fuel acc c with
  | nil =>
    obtain ⟨k, rfl⟩ := Nat.exists_eq_succ_of_ne_zero (Nat.ne_zero_of_lt hfuel)
    refine ⟨c.advance, ?_, rest_advance_of_rest hc⟩
    rw [readTextBytes, peek?_of_rest hc]
    simp
  | plain hb hraw ih =>
    obtain ⟨hquote, hbackslash, hcontrol⟩ := hb
    obtain ⟨k, rfl⟩ := Nat.exists_eq_succ_of_ne_zero (Nat.ne_zero_of_lt hfuel)
    obtain ⟨c', hread, hrest⟩ :=
      ih (Nat.lt_of_succ_lt_succ hfuel) (_ :: acc) (rest_advance_of_rest hc)
    refine ⟨c', ?_, hrest⟩
    rw [readTextBytes, peek?_of_rest hc]
    simp only [hquote, hbackslash, hcontrol, if_false]
    rw [hread]
    simp
  | @escape esc raw bs ch he hraw ih =>
    obtain ⟨k, rfl⟩ := Nat.exists_eq_succ_of_ne_zero (Nat.ne_zero_of_lt hfuel)
    rw [List.cons_append, List.append_assoc] at hc
    obtain ⟨c₁, hescape, hrest₁⟩ := readEscape_of_escape he (rest_advance_of_rest hc)
    have hfuel' : raw.length < k := by
      rw [List.length_cons, List.length_append] at hfuel
      omega
    obtain ⟨c', hread, hrest⟩ := ih hfuel' ((String.utf8EncodeChar ch).reverse ++ acc) hrest₁
    refine ⟨c', ?_, hrest⟩
    rw [readTextBytes, peek?_of_rest hc]
    simp only [hnot, if_false, if_true, hescape]
    rw [hread]
    simp

/-- A text that is read is spelled by the bytes up to the closing quote. -/
theorem spells_of_readText {s : String} (h : readText c = .ok (s, c')) :
    ∃ raw, Unescapes raw (Utf8.encode s) ∧ c.Spans (raw ++ [byte '"']) c' := by
  rw [readText, readRawText] at h
  split at h
  · cases h
  · next bs c₁ hread =>
    obtain ⟨raw, new, rfl, hraw, hspans⟩ := unescapes_of_readTextBytes hread
    split at h
    · next t hdecode =>
      cases h
      exact ⟨raw, Utf8.decode?_eq_some_iff.mp hdecode ▸ hraw, hspans⟩
    · cases h

/-- A text is read where it is spelled. -/
theorem readText_of_spells {raw : List UInt8} {s : String} (h : Unescapes raw (Utf8.encode s))
    (hc : c.rest = raw ++ byte '"' :: tail) : ∃ c', readText c = .ok (s, c') ∧ c'.rest = tail := by
  have hfuel : raw.length < c.rest.length + 1 := by
    rw [hc, List.length_append]
    omega
  obtain ⟨c', hread, hrest⟩ := readTextBytes_of_unescapes h hfuel [] hc
  refine ⟨c', ?_, hrest⟩
  rw [readText, readRawText, hread]
  simp only [List.reverse_nil, List.nil_append, Utf8.decode?_encode]

end IndexKeeper.Json
