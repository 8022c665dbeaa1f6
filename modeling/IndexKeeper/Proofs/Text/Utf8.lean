import IndexKeeper.Text.Utf8

/-!
# The bytes of texts

A text is read from its bytes and from no others: `decode?_eq_some_iff`.  The bytes of a character
are those that `next` asks for.  Its first byte announces how many follow and bounds the second, and
the bounds shut out nothing but the overlong forms and the surrogates, of which no character has the
number.
-/

namespace IndexKeeper.Utf8

/-! ## Bytes after the first -/

theorem toNat_ofNat_of_lt {n : Nat} (h : n < 256) : (UInt8.ofNat n).toNat = n := by
  rw [UInt8.toNat_ofNat']
  exact Nat.mod_eq_of_lt h

/-- A byte after the first within its bounds is read. -/
theorem continue?_cons {low high : UInt8} {d : Nat} (hd : d < 64)
    (hlow : low.toNat ≤ d + 0x80) (hhigh : d + 0x80 ≤ high.toNat) (acc more : Nat)
    (rest : List UInt8) :
    continue? low high acc (more + 1) (UInt8.ofNat (d + 0x80) :: rest) =
      continue? 0x80 0xBF (acc * 64 + d) more rest := by
  have hbyte : (UInt8.ofNat (d + 0x80)).toNat = d + 0x80 := toNat_ofNat_of_lt (by omega)
  have hbounds : low ≤ UInt8.ofNat (d + 0x80) ∧ UInt8.ofNat (d + 0x80) ≤ high := by
    rw [UInt8.le_iff_toNat_le, UInt8.le_iff_toNat_le, hbyte]
    exact ⟨hlow, hhigh⟩
  have hmod : (d + 0x80) % 64 = d := by omega
  rw [continue?, if_pos hbounds, hbyte, hmod]

/-- A last byte, and one that is followed by others, without bounds of its own. -/
theorem continue?_tail {d : Nat} (hd : d < 64) (acc more : Nat) (rest : List UInt8) :
    continue? 0x80 0xBF acc (more + 1) (UInt8.ofNat (d + 0x80) :: rest) =
      continue? 0x80 0xBF (acc * 64 + d) more rest := by
  have hlow : (0x80 : UInt8).toNat = 0x80 := rfl
  have hhigh : (0xBF : UInt8).toNat = 0xBF := rfl
  exact continue?_cons hd (by omega) (by omega) acc more rest

/-! ## First bytes -/

deriving instance DecidableEq for Lead

theorem lead?_two : ∀ h < 32, 2 ≤ h →
    lead? (UInt8.ofNat (h + 0xC0)) = some ⟨h, 0x80, 0xBF, 0⟩ := by
  decide

theorem lead?_three : ∀ h < 16, lead? (UInt8.ofNat (h + 0xE0)) =
    some ⟨h, if h = 0 then 0xA0 else 0x80, if h = 13 then 0x9F else 0xBF, 1⟩ := by
  decide

theorem lead?_four : ∀ h < 5, lead? (UInt8.ofNat (h + 0xF0)) =
    some ⟨h, if h = 0 then 0x90 else 0x80, if h = 4 then 0x8F else 0xBF, 2⟩ := by
  decide

theorem next_of_lead {n : Nat} {l : Lead} (hlarge : 0x80 ≤ n) (hbyte : n < 256)
    (hlead : lead? (UInt8.ofNat n) = some l) (rest : List UInt8) :
    next (UInt8.ofNat n) rest =
      ((continue? l.low l.high l.bits (l.more + 1) rest).1.map Char.ofNat,
        (continue? l.low l.high l.bits (l.more + 1) rest).2) := by
  have hnot : ¬ UInt8.ofNat n < 0x80 := by
    have hbound : (0x80 : UInt8).toNat = 0x80 := rfl
    rw [UInt8.lt_iff_toNat_lt, toNat_ofNat_of_lt hbyte]
    omega
  rw [next, if_neg hnot, hlead]

/-! ## Characters of several bytes -/

theorem next_two {h d : Nat} (hh : h < 32) (hd : d < 64) (hlong : 2 ≤ h) (rest : List UInt8) :
    next (UInt8.ofNat (h + 0xC0)) (UInt8.ofNat (d + 0x80) :: rest) =
      (some (Char.ofNat (h * 64 + d)), rest) := by
  rw [next_of_lead (by omega) (by omega) (lead?_two h hh hlong), continue?_tail hd]
  rfl

/-- The number is no surrogate and takes three bytes. -/
theorem next_three {h d e : Nat} (hh : h < 16) (hd : d < 64) (he : e < 64)
    (hlong : h = 0 → 32 ≤ d) (hsurrogate : h = 13 → d < 32) (rest : List UInt8) :
    next (UInt8.ofNat (h + 0xE0)) (UInt8.ofNat (d + 0x80) :: UInt8.ofNat (e + 0x80) :: rest) =
      (some (Char.ofNat ((h * 64 + d) * 64 + e)), rest) := by
  have hlow : (if h = 0 then 0xA0 else 0x80 : UInt8).toNat ≤ d + 0x80 := by
    split <;> simp only [UInt8.reduceToNat] <;> omega
  have hhigh : d + 0x80 ≤ (if h = 13 then 0x9F else 0xBF : UInt8).toNat := by
    split <;> simp only [UInt8.reduceToNat] <;> omega
  rw [next_of_lead (by omega) (by omega) (lead?_three h hh), continue?_cons hd hlow hhigh,
    continue?_tail he]
  rfl

/-- The number is one of a character and takes four bytes. -/
theorem next_four {h d e f : Nat} (hh : h < 5) (hd : d < 64) (he : e < 64) (hf : f < 64)
    (hlong : h = 0 → 16 ≤ d) (hlast : h = 4 → d < 16) (rest : List UInt8) :
    next (UInt8.ofNat (h + 0xF0)) (UInt8.ofNat (d + 0x80) :: UInt8.ofNat (e + 0x80) ::
        UInt8.ofNat (f + 0x80) :: rest) =
      (some (Char.ofNat (((h * 64 + d) * 64 + e) * 64 + f)), rest) := by
  have hlow : (if h = 0 then 0x90 else 0x80 : UInt8).toNat ≤ d + 0x80 := by
    split <;> simp only [UInt8.reduceToNat] <;> omega
  have hhigh : d + 0x80 ≤ (if h = 4 then 0x8F else 0xBF : UInt8).toNat := by
    split <;> simp only [UInt8.reduceToNat] <;> omega
  rw [next_of_lead (by omega) (by omega) (lead?_four h hh), continue?_cons hd hlow hhigh,
    continue?_tail he, continue?_tail hf]
  rfl

/-! ## Characters -/

/-- No character has the number of a surrogate or one above the last. -/
theorem bounds_of_char (c : Char) :
    c.val.toNat < 0x110000 ∧ (c.val.toNat < 0xD800 ∨ 0xDFFF < c.val.toNat) := by
  have hvalid := c.valid
  simp only [UInt32.isValidChar, Nat.isValidChar] at hvalid
  omega

/-- The character of a number that is put together from its parts. -/
theorem ofNat_of_eq {c : Char} {n : Nat} (h : n = c.val.toNat) : Char.ofNat n = c := by
  rw [h]
  exact Char.ofNat_toNat c

/-- The first character of bytes is the one whose bytes they start with. -/
theorem next_utf8EncodeChar (c : Char) :
    ∃ b bs, String.utf8EncodeChar c = b :: bs ∧ ∀ rest, next b (bs ++ rest) = (some c, rest) := by
  obtain ⟨hlast, hsurrogate⟩ := bounds_of_char c
  rw [String.utf8EncodeChar]
  generalize hv : c.val.toNat = v at *
  split
  · refine ⟨_, _, rfl, fun rest => ?_⟩
    have hbyte := toNat_ofNat_of_lt (n := v) (by omega)
    have hascii : UInt8.ofNat v < 0x80 := by
      rw [UInt8.lt_iff_toNat_lt, hbyte]
      simp only [UInt8.reduceToNat]
      omega
    rw [next, if_pos hascii, hbyte, ofNat_of_eq hv.symm]
    rfl
  · split
    · refine ⟨_, _, rfl, fun rest => ?_⟩
      rw [List.singleton_append, next_two (by omega) (by omega) (by omega),
        ofNat_of_eq (c := c) (by omega)]
    · split
      · refine ⟨_, _, rfl, fun rest => ?_⟩
        rw [List.cons_append, List.singleton_append,
          next_three (by omega) (by omega) (by omega) (by omega) (by omega),
          ofNat_of_eq (c := c) (by omega)]
      · refine ⟨_, _, rfl, fun rest => ?_⟩
        have hlead : v / 262144 % 8 = v / 262144 := by omega
        rw [hlead, List.cons_append, List.cons_append, List.singleton_append,
          next_four (by omega) (by omega) (by omega) (by omega) (by omega) (by omega),
          ofNat_of_eq (c := c) (by omega)]

theorem decodeChars?_encode (cs : List Char) :
    decodeChars? (cs.flatMap String.utf8EncodeChar) = some cs := by
  induction cs with
  | nil => simp [decodeChars?]
  | cons c rest ih =>
    obtain ⟨b, bs, hbytes, hnext⟩ := next_utf8EncodeChar c
    rw [List.flatMap_cons, hbytes, List.cons_append, decodeChars?, hnext]
    simp only [ih, Option.map_some]

/-- A text is read back from its bytes. -/
theorem decode?_encode (s : String) : decode? (encode s) = some s := by
  rw [decode?, encode, decodeChars?_encode, Option.map_some, String.ofList_toList]

theorem decodeLossyChars_encode (cs : List Char) :
    decodeLossyChars (cs.flatMap String.utf8EncodeChar) = cs := by
  induction cs with
  | nil => simp [decodeLossyChars]
  | cons c rest ih =>
    obtain ⟨b, bs, hbytes, hnext⟩ := next_utf8EncodeChar c
    rw [List.flatMap_cons, hbytes, List.cons_append, decodeLossyChars, hnext]
    simp only [ih, Option.getD_some]

/-- In the bytes of a text nothing is replaced. -/
theorem decodeLossy_encode (s : String) : decodeLossy (encode s) = s := by
  rw [decodeLossy, encode, decodeLossyChars_encode, String.ofList_toList]

/-! ## What was decoded -/

/-- A byte after the first that was read: its own part of the number, and its bounds. -/
theorem exists_of_continue? {low high : UInt8} {acc more n : Nat} {bytes rest : List UInt8}
    (hlow : 0x80 ≤ low.toNat) (hhigh : high.toNat ≤ 0xBF)
    (h : continue? low high acc (more + 1) bytes = (some n, rest)) :
    ∃ d tail, bytes = UInt8.ofNat (d + 0x80) :: tail ∧ d < 64 ∧ low.toNat ≤ d + 0x80 ∧
      d + 0x80 ≤ high.toNat ∧ continue? 0x80 0xBF (acc * 64 + d) more tail = (some n, rest) := by
  cases bytes with
  | nil => cases h
  | cons b tail =>
    rw [continue?] at h
    split at h
    · next hbounds =>
      rw [UInt8.le_iff_toNat_le, UInt8.le_iff_toNat_le] at hbounds
      have hsum : b.toNat - 0x80 + 0x80 = b.toNat := by omega
      have hmod : b.toNat % 64 = b.toNat - 0x80 := by omega
      refine ⟨b.toNat - 0x80, tail, ?_, by omega, by omega, by omega, hmod ▸ h⟩
      rw [hsum, UInt8.ofNat_toNat]
    · cases h

theorem exists_of_continue?_tail {acc more n : Nat} {bytes rest : List UInt8}
    (h : continue? 0x80 0xBF acc (more + 1) bytes = (some n, rest)) :
    ∃ d tail, bytes = UInt8.ofNat (d + 0x80) :: tail ∧ d < 64 ∧
      continue? 0x80 0xBF (acc * 64 + d) more tail = (some n, rest) := by
  obtain ⟨d, tail, hbytes, hd, _, _, hrest⟩ := exists_of_continue? (by decide) (by decide) h
  exact ⟨d, tail, hbytes, hd, hrest⟩

theorem bounds_of_lead? {b : UInt8} {l : Lead} (h : lead? b = some l) :
    0xC2 ≤ b.toNat ∧ b.toNat ≤ 0xF4 := by
  simp only [lead?, UInt8.le_iff_toNat_le, ← UInt8.toNat_inj, UInt8.reduceToNat] at h
  repeat' split at h
  all_goals first | omega | cases h

/-- The bytes that start a character of several bytes. -/
theorem exists_of_lead? {b : UInt8} {l : Lead} (h : lead? b = some l) :
    (∃ k < 32, 2 ≤ k ∧ b = UInt8.ofNat (k + 0xC0) ∧ l = ⟨k, 0x80, 0xBF, 0⟩) ∨
      (∃ k < 16, b = UInt8.ofNat (k + 0xE0) ∧
        l = ⟨k, if k = 0 then 0xA0 else 0x80, if k = 13 then 0x9F else 0xBF, 1⟩) ∨
      ∃ k < 5, b = UInt8.ofNat (k + 0xF0) ∧
        l = ⟨k, if k = 0 then 0x90 else 0x80, if k = 4 then 0x8F else 0xBF, 2⟩ := by
  obtain ⟨hlow, hhigh⟩ := bounds_of_lead? h
  rw [← UInt8.ofNat_toNat (x := b)] at h ⊢
  generalize b.toNat = n at *
  by_cases htwo : n < 0xE0
  · obtain ⟨k, rfl⟩ := Nat.exists_eq_add_of_le' (Nat.le_trans (by decide : 0xC0 ≤ 0xC2) hlow)
    have hlead := lead?_two k (by omega) (by omega)
    exact Or.inl ⟨k, by omega, by omega, rfl, Option.some.inj (h.symm.trans hlead)⟩
  · by_cases hthree : n < 0xF0
    · obtain ⟨k, rfl⟩ := Nat.exists_eq_add_of_le' (Nat.le_of_not_lt htwo)
      have hlead := lead?_three k (by omega)
      exact Or.inr (Or.inl ⟨k, by omega, rfl, Option.some.inj (h.symm.trans hlead)⟩)
    · obtain ⟨k, rfl⟩ := Nat.exists_eq_add_of_le' (Nat.le_of_not_lt hthree)
      have hlead := lead?_four k (by omega)
      exact Or.inr (Or.inr ⟨k, by omega, rfl, Option.some.inj (h.symm.trans hlead)⟩)

theorem toNat_ofNat_char {n : Nat} (h : n < 0xD800 ∨ 0xDFFF < n ∧ n < 0x110000) :
    (Char.ofNat n).val.toNat = n := by
  have hvalid : n.isValidChar := by
    rw [Nat.isValidChar]
    omega
  rw [Char.ofNat, dif_pos hvalid]
  rfl

/-- The bytes of a character, from the parts of its number. -/
theorem utf8EncodeChar_two {h d : Nat} (hh : h < 32) (hd : d < 64) (hlong : 2 ≤ h) :
    String.utf8EncodeChar (Char.ofNat (h * 64 + d)) =
      [UInt8.ofNat (h + 0xC0), UInt8.ofNat (d + 0x80)] := by
  rw [String.utf8EncodeChar, toNat_ofNat_char (by omega)]
  have h₁ : (h * 64 + d) / 64 % 32 = h := by omega
  have h₂ : (h * 64 + d) % 64 = d := by omega
  rw [if_neg (by omega), if_pos (by omega), h₁, h₂]

theorem utf8EncodeChar_three {h d e : Nat} (hh : h < 16) (hd : d < 64) (he : e < 64)
    (hlong : h = 0 → 32 ≤ d) (hsurrogate : h = 13 → d < 32) :
    String.utf8EncodeChar (Char.ofNat ((h * 64 + d) * 64 + e)) =
      [UInt8.ofNat (h + 0xE0), UInt8.ofNat (d + 0x80), UInt8.ofNat (e + 0x80)] := by
  rw [String.utf8EncodeChar, toNat_ofNat_char (by omega)]
  have h₁ : ((h * 64 + d) * 64 + e) / 4096 % 16 = h := by omega
  have h₂ : ((h * 64 + d) * 64 + e) / 64 % 64 = d := by omega
  have h₃ : ((h * 64 + d) * 64 + e) % 64 = e := by omega
  rw [if_neg (by omega), if_neg (by omega), if_pos (by omega), h₁, h₂, h₃]

theorem utf8EncodeChar_four {h d e f : Nat} (hh : h < 5) (hd : d < 64) (he : e < 64) (hf : f < 64)
    (hlong : h = 0 → 16 ≤ d) (hlast : h = 4 → d < 16) :
    String.utf8EncodeChar (Char.ofNat (((h * 64 + d) * 64 + e) * 64 + f)) =
      [UInt8.ofNat (h + 0xF0), UInt8.ofNat (d + 0x80), UInt8.ofNat (e + 0x80),
        UInt8.ofNat (f + 0x80)] := by
  rw [String.utf8EncodeChar, toNat_ofNat_char (by omega)]
  have h₁ : (((h * 64 + d) * 64 + e) * 64 + f) / 262144 % 8 = h := by omega
  have h₂ : (((h * 64 + d) * 64 + e) * 64 + f) / 4096 % 64 = d := by omega
  have h₃ : (((h * 64 + d) * 64 + e) * 64 + f) / 64 % 64 = e := by omega
  have h₄ : (((h * 64 + d) * 64 + e) * 64 + f) % 64 = f := by omega
  rw [if_neg (by omega), if_neg (by omega), if_neg (by omega), h₁, h₂, h₃, h₄]

/-- The bytes after the first byte of a character give the character of its number. -/
theorem eq_append_of_lead {b : UInt8} {l : Lead} {n : Nat} {rest tail : List UInt8}
    (hlead : lead? b = some l)
    (hread : continue? l.low l.high l.bits (l.more + 1) rest = (some n, tail)) :
    b :: rest = String.utf8EncodeChar (Char.ofNat n) ++ tail := by
  rcases exists_of_lead? hlead with ⟨k, hk, hlong, rfl, rfl⟩ | ⟨k, hk, rfl, rfl⟩ | ⟨k, hk, rfl, rfl⟩
  · obtain ⟨d, _, rfl, hd, hend⟩ := exists_of_continue?_tail hread
    cases hend
    rw [utf8EncodeChar_two hk hd hlong]
    rfl
  · have hlow : 0x80 ≤ (if k = 0 then 0xA0 else 0x80 : UInt8).toNat := by split <;> decide
    have hhigh : (if k = 13 then 0x9F else 0xBF : UInt8).toNat ≤ 0xBF := by split <;> decide
    obtain ⟨d, _, rfl, hd, hfrom, hto, hmore⟩ := exists_of_continue? hlow hhigh hread
    obtain ⟨e, _, rfl, he, hend⟩ := exists_of_continue?_tail hmore
    cases hend
    have hlong : k = 0 → 32 ≤ d := by
      rintro rfl
      simp only [if_true, UInt8.reduceToNat] at hfrom
      omega
    have hsurrogate : k = 13 → d < 32 := by
      rintro rfl
      simp only [if_true, UInt8.reduceToNat] at hto
      omega
    rw [utf8EncodeChar_three hk hd he hlong hsurrogate]
    rfl
  · have hlow : 0x80 ≤ (if k = 0 then 0x90 else 0x80 : UInt8).toNat := by split <;> decide
    have hhigh : (if k = 4 then 0x8F else 0xBF : UInt8).toNat ≤ 0xBF := by split <;> decide
    obtain ⟨d, _, rfl, hd, hfrom, hto, hmore⟩ := exists_of_continue? hlow hhigh hread
    obtain ⟨e, _, rfl, he, hmore⟩ := exists_of_continue?_tail hmore
    obtain ⟨f, _, rfl, hf, hend⟩ := exists_of_continue?_tail hmore
    cases hend
    have hlong : k = 0 → 16 ≤ d := by
      rintro rfl
      simp only [if_true, UInt8.reduceToNat] at hfrom
      omega
    have hlast : k = 4 → d < 16 := by
      rintro rfl
      simp only [if_true, UInt8.reduceToNat] at hto
      omega
    rw [utf8EncodeChar_four hk hd he hf hlong hlast]
    rfl

/-- Bytes in which a character is found start with the bytes of this character. -/
theorem eq_append_of_next {b : UInt8} {rest : List UInt8} {c : Char}
    (h : (next b rest).1 = some c) :
    b :: rest = String.utf8EncodeChar c ++ (next b rest).2 := by
  by_cases hascii : b < 0x80
  · rw [next, if_pos hascii] at h ⊢
    cases h
    have hbound : (0x80 : UInt8).toNat = 0x80 := rfl
    rw [UInt8.lt_iff_toNat_lt] at hascii
    rw [String.utf8EncodeChar, toNat_ofNat_char (by omega), if_pos (by omega), UInt8.ofNat_toNat]
    rfl
  · rw [next, if_neg hascii] at h ⊢
    cases hl : lead? b with
    | none =>
      rw [hl] at h
      cases h
    | some l =>
      rw [hl] at h
      obtain ⟨n, hn, rfl⟩ := Option.map_eq_some_iff.mp h
      exact eq_append_of_lead hl (Prod.ext hn rfl)

/-- Bytes in which characters are found are the bytes of these characters. -/
theorem eq_flatMap_of_decodeChars? {bytes : List UInt8} {cs : List Char}
    (h : decodeChars? bytes = some cs) : bytes = cs.flatMap String.utf8EncodeChar := by
  fun_induction decodeChars? bytes generalizing cs with
  | case1 =>
    cases h
    rfl
  | case2 b rest hnone => cases h
  | case3 b rest c hsome ih =>
    obtain ⟨ds, hds, rfl⟩ := Option.map_eq_some_iff.mp h
    rw [List.flatMap_cons, ← ih hds]
    exact eq_append_of_next hsome

/-- A text is read from its bytes and from no others. -/
theorem decode?_eq_some_iff {bytes : List UInt8} {s : String} :
    decode? bytes = some s ↔ bytes = encode s := by
  constructor
  · intro h
    obtain ⟨cs, hcs, rfl⟩ := Option.map_eq_some_iff.mp h
    rw [encode, String.toList_ofList]
    exact eq_flatMap_of_decodeChars? hcs
  · rintro rfl
    exact decode?_encode s

end IndexKeeper.Utf8
