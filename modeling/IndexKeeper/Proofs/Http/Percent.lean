import IndexKeeper.Http.Percent

/-!
# Texts with one encoding

A percent sign is never encoded, so a character that is encoded and a text that is its escape can
stand for the same: the escape of a quote is `%22`, and so is the text of these three characters.
Texts without capitals are told apart by what encodes them in a path (`encode_inPath_injective`) as
long as each character that is encoded is *telling*: a capital digit in its first byte gives the
escape away.
-/

namespace IndexKeeper.Percent

/-! ## Digits and bytes -/

theorem hexDigit_injective : ∀ m < 16, ∀ n < 16, hexDigit m = hexDigit n → m = n := by decide

theorem hexDigit_ne_percent : ∀ n < 16, hexDigit n ≠ '%' := by decide

theorem isUpper_hexDigit : ∀ n < 16, 10 ≤ n → (hexDigit n).isUpper = true := by decide

theorem div_sixteen_lt (b : UInt8) : b.toNat / 16 < 16 := by
  have hb := b.toNat_lt
  omega

theorem mod_sixteen_lt (b : UInt8) : b.toNat % 16 < 16 := Nat.mod_lt _ (by decide)

/-- The escapes of two bytes are told apart whatever follows. -/
theorem encodeByte_append_inj {a b : UInt8} {x y : List Char}
    (h : encodeByte a ++ x = encodeByte b ++ y) : a = b ∧ x = y := by
  simp only [encodeByte, List.cons_append, List.nil_append, List.cons.injEq, true_and] at h
  obtain ⟨hhigh, hlow, hrest⟩ := h
  have hdiv := hexDigit_injective _ (div_sixteen_lt a) _ (div_sixteen_lt b) hhigh
  have hmod := hexDigit_injective _ (mod_sixteen_lt a) _ (mod_sixteen_lt b) hlow
  refine ⟨UInt8.toNat_inj.mp ?_, hrest⟩
  calc a.toNat = 16 * (a.toNat / 16) + a.toNat % 16 := (Nat.div_add_mod _ _).symm
    _ = 16 * (b.toNat / 16) + b.toNat % 16 := by rw [hdiv, hmod]
    _ = b.toNat := Nat.div_add_mod _ _

/-- Of two runs of escaped bytes that start a text, one starts the other. -/
theorem prefix_or_prefix_of_flatMap_encodeByte {bs bs' : List UInt8} {x y : List Char}
    (h : bs.flatMap encodeByte ++ x = bs'.flatMap encodeByte ++ y) :
    bs <+: bs' ∨ bs' <+: bs := by
  induction bs generalizing bs' with
  | nil => exact .inl (List.nil_prefix)
  | cons b bs ih =>
    cases bs' with
    | nil => exact .inr (List.nil_prefix)
    | cons b' bs' =>
      rw [List.flatMap_cons, List.flatMap_cons, List.append_assoc, List.append_assoc] at h
      obtain ⟨rfl, hrest⟩ := encodeByte_append_inj h
      simpa only [List.prefix_cons_inj] using ih hrest

/-! ## Characters -/

/-- No character's bytes start those of another. -/
theorem eq_of_prefix_utf8EncodeChar {c d : Char}
    (h : String.utf8EncodeChar c <+: String.utf8EncodeChar d) : c = d := by
  obtain ⟨rest, hrest⟩ := h
  have hencode : [c].utf8Encode ++ rest.toByteArray = [d].utf8Encode := by
    simp only [List.utf8Encode, List.flatMap_cons, List.flatMap_nil, List.append_nil, ← hrest,
      List.toByteArray_append]
  have hprefix := List.isPrefix_of_utf8Encode_append_eq_utf8Encode _ hencode
  simpa using hprefix

theorem utf8EncodeChar_ne_nil (c : Char) : String.utf8EncodeChar c ≠ [] := by
  intro h
  have hlength := String.length_utf8EncodeChar c
  rw [h] at hlength
  exact absurd hlength.symm (Nat.ne_of_gt c.utf8Size_pos)

/-- Characters that stand in a path as they are, or whose escape has a capital in its first byte;
blanks, of which some do too, are not among them. -/
def isTelling (c : Char) : Bool := 0x20 < c.toNat && !(['"', '#', '\x60'].contains c)

/-- A byte with a capital in its escape. -/
def HasCapital (b : UInt8) : Prop :=
  (hexDigit (b.toNat / 16)).isUpper = true ∨ (hexDigit (b.toNat % 16)).isUpper = true

theorem hasCapital_of_le {b : UInt8} (h : 0xC0 ≤ b.toNat) : HasCapital b := by
  refine .inl (isUpper_hexDigit _ (div_sixteen_lt b) ?_)
  omega

/-- The first byte of a character beyond ASCII. -/
theorem hasCapital_head_of_lt {c : Char} (h : 0x7F < c.toNat) :
    ∃ b bs, String.utf8EncodeChar c = b :: bs ∧ HasCapital b := by
  have hv : ¬ c.val.toNat ≤ 127 := Nat.not_le_of_lt h
  rw [String.utf8EncodeChar]
  simp only [hv, if_false]
  split
  · refine ⟨_, _, rfl, hasCapital_of_le ?_⟩
    rw [UInt8.toNat_ofNat']
    omega
  · split
    · refine ⟨_, _, rfl, hasCapital_of_le ?_⟩
      rw [UInt8.toNat_ofNat']
      omega
    · refine ⟨_, _, rfl, hasCapital_of_le ?_⟩
      rw [UInt8.toNat_ofNat']
      omega

/-- The telling characters of ASCII that are encoded. -/
theorem eq_of_inPath {c : Char} (htelling : isTelling c = true) (hset : inPath c = true)
    (hascii : c.toNat ≤ 0x7F) :
    c = '<' ∨ c = '>' ∨ c = '?' ∨ c = '{' ∨ c = '}' ∨ c = '\x7F' := by
  simp only [isTelling, Bool.and_eq_true, decide_eq_true_eq, Bool.not_eq_true',
    List.contains_eq_mem, decide_eq_false_iff_not, List.mem_cons, List.not_mem_nil, or_false,
    not_or] at htelling
  simp only [inPath, inFragment, isControl, Bool.or_eq_true, decide_eq_true_eq,
    List.contains_eq_mem, List.mem_cons, List.not_mem_nil, or_false] at hset
  obtain ⟨hblank, hquote, hhash, htick⟩ := htelling
  have hspace : c ≠ ' ' := by
    rintro rfl
    exact absurd hblank (by decide)
  rcases hset with ((hlow | hhigh) | hset) | hset
  · omega
  · have hdel : c = '\x7F' := Char.toNat_inj.mp (Nat.le_antisymm hascii hhigh)
    simp only [hdel, or_true]
  · grind
  · grind

/-- The first byte of a telling character that is encoded. -/
theorem hasCapital_head {c : Char} (htelling : isTelling c = true) (hset : inPath c = true) :
    ∃ b bs, String.utf8EncodeChar c = b :: bs ∧ HasCapital b := by
  by_cases hascii : 0x7F < c.toNat
  · exact hasCapital_head_of_lt hascii
  · rcases eq_of_inPath htelling hset (Nat.le_of_not_lt hascii) with
      rfl | rfl | rfl | rfl | rfl | rfl <;>
      exact ⟨_, _, rfl, .inr (by decide)⟩

/-! ## Texts -/

section Texts

variable {set : Char → Bool} {c : Char} {cs ds : List Char}

theorem encode_cons (set : Char → Bool) (c : Char) (cs : List Char) :
    encode set (c :: cs) = encodeChar set c ++ encode set cs := rfl

theorem encodeChar_of_not (h : set c = false) : encodeChar set c = [c] := by
  rw [encodeChar, h, if_neg Bool.false_ne_true]

theorem encodeChar_of_set (h : set c = true) :
    encodeChar set c = (String.utf8EncodeChar c).flatMap encodeByte := by
  rw [encodeChar, h, if_pos rfl]

/-- What is encoded starts with a percent sign. -/
theorem exists_encodeChar_eq_percent (h : set c = true) :
    ∃ rest, encodeChar set c = '%' :: rest := by
  rw [encodeChar_of_set h]
  cases hbytes : String.utf8EncodeChar c with
  | nil => exact absurd hbytes (utf8EncodeChar_ne_nil c)
  | cons b bs => exact ⟨_, rfl⟩

theorem encode_cons_ne_nil (set : Char → Bool) (c : Char) (cs : List Char) :
    encode set (c :: cs) ≠ [] := by
  rw [encode_cons]
  cases hset : set c with
  | true =>
    obtain ⟨rest, hrest⟩ := exists_encodeChar_eq_percent hset
    rw [hrest]
    exact List.cons_ne_nil _ _
  | false =>
    rw [encodeChar_of_not hset]
    exact List.cons_ne_nil _ _

/-- Another character than a percent sign stands for itself. -/
theorem exists_of_encode_eq_cons {w : Char} {rest : List Char} (hw : w ≠ '%')
    (h : encode set ds = w :: rest) : ∃ tail, ds = w :: tail ∧ encode set tail = rest := by
  cases ds with
  | nil => cases h
  | cons d tail =>
    rw [encode_cons] at h
    cases hset : set d with
    | true =>
      obtain ⟨more, hmore⟩ := exists_encodeChar_eq_percent hset
      rw [hmore, List.cons_append] at h
      exact absurd (List.cons.inj h).1.symm hw
    | false =>
      rw [encodeChar_of_not hset] at h
      obtain ⟨rfl, hrest⟩ := List.cons.inj h
      exact ⟨tail, rfl, hrest⟩

/-- The escape of a telling character does not stand in a text without capitals. -/
theorem encodeChar_append_ne (htelling : isTelling c = true) (hset : inPath c = true)
    (hds : ∀ d ∈ ds, d.isUpper = false) (rest : List Char) {d : Char} (hd : inPath d = false) :
    encodeChar inPath c ++ rest ≠ encode inPath (d :: ds) := by
  intro h
  obtain ⟨b, bs, hbytes, hcapital⟩ := hasCapital_head htelling hset
  rw [encodeChar_of_set hset, hbytes, encode_cons, encodeChar_of_not hd, List.flatMap_cons,
    encodeByte] at h
  simp only [List.cons_append, List.nil_append, List.cons.injEq] at h
  -- after the percent sign there are two digits, which stand for themselves
  obtain ⟨_, hdigits⟩ := h
  obtain ⟨after, rfl, hafter⟩ :=
    exists_of_encode_eq_cons (hexDigit_ne_percent _ (div_sixteen_lt b)) hdigits.symm
  obtain ⟨tail, rfl, _⟩ :=
    exists_of_encode_eq_cons (hexDigit_ne_percent _ (mod_sixteen_lt b)) hafter
  rcases hcapital with hhigh | hlow
  · rw [hds _ (by simp)] at hhigh
    cases hhigh
  · rw [hds _ (by simp)] at hlow
    cases hlow

/-- Encoded characters are told apart whatever follows. -/
theorem encodeChar_append_inj {d : Char} {x y : List Char} (hc : set c = true) (hd : set d = true)
    (h : encodeChar set c ++ x = encodeChar set d ++ y) : c = d ∧ x = y := by
  rw [encodeChar_of_set hc, encodeChar_of_set hd] at h
  have heq : c = d := by
    rcases prefix_or_prefix_of_flatMap_encodeByte h with hprefix | hprefix
    · exact eq_of_prefix_utf8EncodeChar hprefix
    · exact (eq_of_prefix_utf8EncodeChar hprefix).symm
  subst heq
  exact ⟨rfl, List.append_cancel_left h⟩

/-- Texts of telling characters without capitals are told apart by their encoding in a path. -/
theorem encode_inPath_injective (hcs : ∀ c ∈ cs, isTelling c = true ∧ c.isUpper = false)
    (hds : ∀ d ∈ ds, isTelling d = true ∧ d.isUpper = false)
    (h : encode inPath cs = encode inPath ds) : cs = ds := by
  induction cs generalizing ds with
  | nil =>
    cases ds with
    | nil => rfl
    | cons d ds => exact absurd h.symm (encode_cons_ne_nil _ _ _)
  | cons c cs ih =>
    cases ds with
    | nil => exact absurd h (encode_cons_ne_nil _ _ _)
    | cons d ds =>
      rw [List.forall_mem_cons] at hcs hds
      cases hc : inPath c with
      | true =>
        cases hd : inPath d with
        | true =>
          rw [encode_cons, encode_cons] at h
          obtain ⟨rfl, hrest⟩ := encodeChar_append_inj hc hd h
          rw [ih hcs.2 hds.2 hrest]
        | false =>
          exact absurd h (encodeChar_append_ne hcs.1.1 hc (fun d hd => (hds.2 d hd).2) _ hd)
      | false =>
        cases hd : inPath d with
        | true =>
          exact absurd h.symm (encodeChar_append_ne hds.1.1 hd (fun c hc => (hcs.2 c hc).2) _ hc)
        | false =>
          rw [encode_cons, encode_cons, encodeChar_of_not hc, encodeChar_of_not hd] at h
          obtain ⟨rfl, hrest⟩ := List.cons.inj h
          rw [ih hcs.2 hds.2 hrest]

example : encode inPath ['"'] = encode inPath "%22".toList := by decide

end Texts

end IndexKeeper.Percent
