import IndexKeeper.Proofs.Json.Numeral

/-!
# Numbers that are read back

The text of an integer of 64 bits is read as the integer (`stands_int`).  A double is written with
the shortest digits that are nearest to it, but the reader rounds more than once and may end beside
it; `Number.Legible` asks of a double that its text is read as it.  A number that is legible is read
back wherever its text stands: `readValue_number`.
-/

namespace IndexKeeper

namespace Json

open Cursor

variable {c : Cursor}

/-! ## Blanks -/

theorem Closes.head_not_space {tail : List UInt8} (h : Closes tail) (b : UInt8)
    (hb : tail.head? = some b) : isSpace b = false :=
  h.head_false (by decide) (by decide) (by decide) hb

/-- Nothing but blanks before a tail. -/
theorem Extends.rest_skipSpace {tail : List UInt8} {c₀ c : Cursor} (h : Extends tail c₀ c)
    (htail : Closes tail) (hblank : c₀.skipSpace.rest = []) : c.skipSpace.rest = tail := by
  rw [Cursor.rest_skipSpace] at hblank ⊢
  rw [h, List.dropWhile_append, hblank]
  cases tail with
  | nil => rfl
  | cons b rest =>
    have hb : isSpace b = false := htail.head_not_space b List.head?_cons
    simp [hb]

/-! ## Digits -/

theorem toNat_of_isDigit {ch : Char} (h : ch.isDigit = true) :
    48 ≤ ch.toNat ∧ ch.toNat ≤ 57 := by
  simp only [Char.isDigit, Bool.and_eq_true, decide_eq_true_eq] at h
  exact h

theorem eq_zero_of_isDigit {ch : Char} (h : ch.isDigit = true) (hvalue : ch.toNat - 48 = 0) :
    ch = '0' := by
  obtain ⟨hlow, _⟩ := toNat_of_isDigit h
  rw [← Char.toNat_inj]
  have hzero : '0'.toNat = 48 := rfl
  omega

theorem digit?_byte {ch : Char} (h : ch.isDigit = true) :
    digit? (byte ch) = some (ch.toNat - 48) := by
  obtain ⟨hlow, hhigh⟩ := toNat_of_isDigit h
  have hbyte : (byte ch).toNat = ch.toNat := Utf8.toNat_ofNat_of_lt (by omega)
  have hzero : (byte '0').toNat = 48 := by decide
  have hnine : (byte '9').toNat = 57 := by decide
  have hbounds : byte '0' ≤ byte ch ∧ byte ch ≤ byte '9' := by
    rw [UInt8.le_iff_toNat_le, UInt8.le_iff_toNat_le, hbyte, hzero, hnine]
    exact ⟨hlow, hhigh⟩
  rw [digit?, if_pos hbounds, hbyte]

theorem isDigit_byte {ch : Char} (h : ch.isDigit = true) : isDigit (byte ch) = true := by
  rw [isDigit, digit?_byte h, Option.isSome_some]

/-- The digits of a numeral are ahead where it stands alone. -/
theorem digitsAhead_of_numeral {cs : List Char} (hcs : ∀ ch ∈ cs, ch.isDigit = true)
    (hc : c.rest = cs.map byte) : digitsAhead c = cs.map fun ch => ch.toNat - 48 := by
  have hall : ∀ b ∈ cs.map byte, isDigit b = true := by
    intro b hb
    obtain ⟨ch, hch, rfl⟩ := List.mem_map.mp hb
    exact isDigit_byte (hcs ch hch)
  have htake : (cs.map byte ++ []).takeWhile isDigit = cs.map byte ++ [].takeWhile isDigit :=
    List.takeWhile_append_of_pos hall
  rw [List.append_nil, List.takeWhile_nil, List.append_nil] at htake
  rw [digitsAhead, hc, htake]
  clear hall hc htake
  induction cs with
  | nil => rfl
  | cons ch rest ih =>
    rw [List.map_cons, List.filterMap_cons, digit?_byte (hcs ch List.mem_cons_self), List.map_cons,
      ih fun d hd => hcs d (List.mem_cons_of_mem ch hd)]

/-- Digits are appended up to the number that they give, if it is within bounds. -/
theorem appendDigits_eq (cs : List Char) (n : Nat)
    (h : Nat.ofDigitChars 10 cs n ≤ maxSignificand) :
    appendDigits n (cs.map fun ch => ch.toNat - 48) = (Nat.ofDigitChars 10 cs n, cs.length) := by
  induction cs generalizing n with
  | nil => simp [appendDigits]
  | cons ch rest ih =>
    have hzero : '0'.toNat = 48 := rfl
    rw [Nat.ofDigitChars_cons, hzero, Nat.mul_comm] at h
    have hnext : n * 10 + (ch.toNat - 48) ≤ maxSignificand := by
      rw [Nat.ofDigitChars_eq_ofDigitChars_zero] at h
      have hpos : 0 < 10 ^ rest.length := Nat.pow_pos (by decide)
      have hle := Nat.le_mul_of_pos_left (n * 10 + (ch.toNat - 48)) hpos
      omega
    rw [List.map_cons, appendDigits, if_pos hnext, ih _ h, Nat.ofDigitChars_cons, hzero,
      Nat.mul_comm n 10]
    rfl

theorem digitChar_ne_zero : ∀ n < 10, 0 < n → Nat.digitChar n ≠ '0' := by
  decide

/-- Only the numeral of zero starts with zero. -/
theorem head?_toDigits_ne (n : Nat) (h : 0 < n) : (Nat.toDigits 10 n).head? ≠ some '0' := by
  induction n using Nat.strongRecOn with
  | ind n ih =>
    by_cases hn : n < 10
    · rw [Nat.toDigits_of_lt_base hn, List.head?_cons]
      exact fun heq => digitChar_ne_zero n hn h (Option.some.inj heq)
    · have hpos : 0 < n / 10 := by omega
      have hhead := ih (n / 10) (by omega) hpos
      rw [Nat.toDigits_of_base_le (by decide) (by omega)]
      cases hdigits : Nat.toDigits 10 (n / 10) with
      | nil => exact absurd hdigits Nat.toDigits_ne_nil
      | cons d rest =>
        rw [hdigits, List.head?_cons] at hhead
        rwa [List.cons_append, List.head?_cons]

/-- Nothing follows the whole digits of a numeral that stands alone. -/
theorem readAfterWhole_of_rest {negative : Bool} {n : Nat} (hc : c.rest = []) :
    readAfterWhole negative n 0 c = finishInteger negative n c := by
  rw [readAfterWhole, atExponent, peek?, hc]
  rfl

/-- The numeral of a number within bounds is read as the number. -/
theorem readNumber_numeral {n : Nat} (h : n ≤ maxSignificand)
    (hc : c.rest = (Nat.toDigits 10 n).map byte) (negative : Bool) :
    ∃ c', readNumber negative c = finishInteger negative n c' ∧ c'.rest = [] := by
  have hall : ∀ ch ∈ Nat.toDigits 10 n, ch.isDigit = true :=
    fun ch hch => Nat.isDigit_of_mem_toDigits (by decide) (by decide) hch
  have hdigits := digitsAhead_of_numeral hall hc
  rcases Nat.eq_zero_or_pos n with rfl | hpos
  · have hrest : c.advance.rest = [] := by
      rw [rest_advance, hc, Nat.toDigits_zero]
      rfl
    have hzero : digitsAhead c = [0] := by
      rw [hdigits, Nat.toDigits_zero]
      rfl
    refine ⟨c.advance, ?_, hrest⟩
    rw [readNumber, hzero, ← readAfterWhole_of_rest hrest]
    rfl
  · have hlength : (digitsAhead c).length = c.rest.length := by
      rw [hdigits, hc, List.length_map, List.length_map]
    have hrest : (c.advanceBy (digitsAhead c).length).rest = [] := by
      rw [rest_advanceBy, hlength, List.drop_length]
    have happend : appendDigits 0 (digitsAhead c) = (n, (digitsAhead c).length) := by
      have hvalue : Nat.ofDigitChars 10 (Nat.toDigits 10 n) 0 = n :=
        Nat.ofDigitChars_ten_toDigits
      rw [hdigits, appendDigits_eq _ 0 (by rw [hvalue]; exact h), hvalue, List.length_map]
    refine ⟨c.advanceBy (digitsAhead c).length, ?_, hrest⟩
    rw [← readAfterWhole_of_rest hrest, readNumber]
    split
    · next hnil =>
      rw [hdigits, List.map_eq_nil_iff] at hnil
      exact absurd hnil Nat.toDigits_ne_nil
    · next more hzero =>
      rw [hdigits, List.map_eq_cons_iff] at hzero
      obtain ⟨ch, rest, hcs, hch, _⟩ := hzero
      have hdigit : ch.isDigit = true := hall ch (by rw [hcs]; exact List.mem_cons_self)
      have hhead := head?_toDigits_ne n hpos
      rw [hcs, List.head?_cons] at hhead
      exact absurd (congrArg some (eq_zero_of_isDigit hdigit hch)) hhead
    · rw [happend]
      simp only [Nat.sub_self]

/-! ## Texts of numbers -/

/-- The text of a number starts with a minus or a digit. -/
def HasHead (cs : List Char) : Prop :=
  ∃ ch rest, cs = ch :: rest ∧ (ch = '-' ∨ ch.isDigit = true)

theorem HasHead.append {cs : List Char} (h : HasHead cs) (ds : List Char) : HasHead (cs ++ ds) := by
  obtain ⟨ch, rest, rfl, hch⟩ := h
  exact ⟨ch, rest ++ ds, rfl, hch⟩

theorem hasHead_take_toDigits (n : Nat) {k : Nat} (hk : 0 < k) :
    HasHead ((Nat.toDigits 10 n).take k) := by
  cases hcs : Nat.toDigits 10 n with
  | nil => exact absurd hcs Nat.toDigits_ne_nil
  | cons ch rest =>
    have hdigit : ch.isDigit = true :=
      Nat.isDigit_of_mem_toDigits (b := 10) (n := n) (by decide) (by decide)
        (by rw [hcs]; exact List.mem_cons_self)
    obtain ⟨m, rfl⟩ := Nat.exists_eq_succ_of_ne_zero (Nat.ne_of_gt hk)
    exact ⟨ch, rest.take m, rfl, .inr hdigit⟩

theorem hasHead_toDigits (n : Nat) : HasHead (Nat.toDigits 10 n) := by
  have h := hasHead_take_toDigits n (k := (Nat.toDigits 10 n).length) Nat.length_toDigits_pos
  rwa [List.take_length] at h

theorem hasHead_pointed (n : Nat) (point : Int) :
    HasHead (Decimal.pointed (Nat.toDigits 10 n) point).toList := by
  rw [Decimal.pointed]
  split
  · rw [String.toList_append, String.toList_append]
    exact ⟨'0', _, rfl, .inr (by decide)⟩
  · next hpoint =>
    split
    · rw [String.toList_append, String.toList_ofList]
      exact (hasHead_toDigits n).append _
    · rw [String.toList_append, String.toList_append, String.toList_ofList, List.append_assoc]
      exact (hasHead_take_toDigits n (by omega)).append _

theorem hasHead_decimal (d : Decimal) : HasHead d.json.toList := by
  rw [Decimal.json]
  simp only
  split
  · split
    · rw [String.toList_append]
      exact (hasHead_pointed d.digits _).append _
    · exact hasHead_pointed d.digits _
  · simp only [String.toList_append, String.toList_ofList, List.append_assoc]
    exact (hasHead_take_toDigits d.digits (by decide)).append _

theorem hasHead_double (x : Binary64) : HasHead x.jsonText.toList := by
  rw [Binary64.jsonText, String.toList_append, Binary64.signText]
  split
  · exact ⟨'-', _, rfl, .inl rfl⟩
  · split
    · exact ⟨'0', _, rfl, .inr (by decide)⟩
    · exact hasHead_decimal _

theorem toList_toString_int (i : Int) :
    (toString i).toList =
      if 0 ≤ i then Nat.toDigits 10 i.toNat else '-' :: Nat.toDigits 10 (-i).toNat := by
  rw [Int.toString_eq_repr, Int.repr_eq_if]
  split
  · rw [Nat.toList_repr]
  · rw [String.toList_append, Nat.toList_repr]
    rfl

theorem hasHead_jsonText (n : Number) : HasHead n.jsonText.toList := by
  cases n with
  | real x => exact hasHead_double x
  | int i =>
    rw [Number.jsonText, toList_toString_int]
    split
    · exact hasHead_toDigits _
    · exact ⟨'-', _, rfl, .inl rfl⟩

/-- The bytes of a number's text start with one that starts a number. -/
theorem startsNumber_of_hasHead {cs : List Char} (h : HasHead cs) :
    ∃ b bs, Utf8.ofChars cs = b :: bs ∧ StartsNumber b := by
  obtain ⟨ch, rest, rfl, hch⟩ := h
  have hascii : ch.toNat ≤ 0x7F := by
    rcases hch with rfl | hdigit
    · decide
    · have hbounds := toNat_of_isDigit hdigit
      omega
  refine ⟨byte ch, Utf8.ofChars rest, ?_, ?_⟩
  · rw [Utf8.ofChars, List.flatMap_cons, utf8EncodeChar_of_ascii hascii]
    rfl
  · rcases hch with rfl | hdigit
    · exact .inl rfl
    · exact .inr (isDigit_byte hdigit)

end Json

/-- A number that is read back from its text: an integer of 64 bits, signed or unsigned, or a double
that its own text is read as. -/
def Number.Legible : Number → Prop
  | .int i => -Int.pow 2 63 ≤ i ∧ i < Int.pow 2 64
  | .real x => Json.ofText x.jsonText = .ok (.num (.real x))

namespace Json

open Cursor

variable {c : Cursor}

/-! ## Texts that stand alone -/

/-- A number is read from its text. -/
def Stands (n : Number) : Prop :=
  ∃ c, readSigned (Cursor.start (Utf8.ofChars n.jsonText.toList)) = .ok (n, c) ∧
    c.skipSpace.rest = []

/-- At the text of a number there is no blank to pass over. -/
theorem skipSpace_of_number {n : Number} {c : Cursor} {tail : List UInt8}
    (hc : c.rest = Utf8.ofChars n.jsonText.toList ++ tail) :
    ∃ b, c.peek? = some b ∧ StartsNumber b ∧ c.skipSpace = c := by
  obtain ⟨b, bs, hbytes, hb⟩ := startsNumber_of_hasHead (hasHead_jsonText n)
  rw [hbytes, List.cons_append] at hc
  exact ⟨b, peek?_of_rest hc, hb, skipSpace_of_cons hc hb.isSpace⟩

theorem skipSpace_of_nil (h : c.rest = []) : c.skipSpace.rest = [] := by
  rw [rest_skipSpace, h, List.dropWhile_nil]

theorem ofChars_toDigits (n : Nat) :
    Utf8.ofChars (Nat.toDigits 10 n) = (Nat.toDigits 10 n).map byte := by
  refine ofChars_of_ascii fun ch hch => ?_
  have hbounds := toNat_of_isDigit (Nat.isDigit_of_mem_toDigits (by decide) (by decide) hch)
  omega

theorem stands_int {i : Int} (hlow : -Int.pow 2 63 ≤ i) (hhigh : i < Int.pow 2 64) :
    Stands (.int i) := by
  have hleast : Int.pow 2 63 = 2 ^ 63 := rfl
  have hbound : Int.pow 2 64 = 2 ^ 64 := rfl
  have hmax : maxSignificand = 2 ^ 64 - 1 := rfl
  have hminus : String.utf8EncodeChar '-' = [byte '-'] := by decide
  rw [Stands, Number.jsonText, toList_toString_int]
  split
  · next hsign =>
    rw [ofChars_toDigits]
    obtain ⟨c, hread, hrest⟩ := readNumber_numeral (c := Cursor.start _)
      (show i.toNat ≤ maxSignificand by omega) rfl false
    have hunsigned : (Cursor.start ((Nat.toDigits 10 i.toNat).map byte)).peek? ≠
        some (byte '-') := by
      intro hpeek
      have hmem : byte '-' ∈ (Nat.toDigits 10 i.toNat).map byte := List.mem_of_head? hpeek
      obtain ⟨ch, hch, hbyte⟩ := List.mem_map.mp hmem
      have hdigit := isDigit_byte (Nat.isDigit_of_mem_toDigits (by decide) (by decide) hch)
      rw [hbyte] at hdigit
      exact absurd hdigit (by decide)
    refine ⟨c, ?_, skipSpace_of_nil hrest⟩
    rw [readSigned, if_neg hunsigned, hread, finishInteger, if_neg Bool.false_ne_true,
      Int.toNat_of_nonneg hsign]
  · next hsign =>
    rw [Utf8.ofChars, List.flatMap_cons, ← Utf8.ofChars, hminus, ofChars_toDigits]
    obtain ⟨c, hread, hrest⟩ := readNumber_numeral (c := (Cursor.start (byte '-' :: _)).advance)
      (show (-i).toNat ≤ maxSignificand by omega) (rest_advance _) true
    refine ⟨c, ?_, skipSpace_of_nil hrest⟩
    have hbounds : (-i).toNat ≠ 0 ∧ (-i).toNat ≤ Nat.pow 2 63 := by
      have hpow : Nat.pow 2 63 = 2 ^ 63 := rfl
      omega
    have hvalue : (-((-i).toNat : Int)) = i := by omega
    rw [readSigned, if_pos (peek?_of_rest rfl), List.singleton_append, hread, finishInteger,
      if_pos rfl, if_pos hbounds, hvalue]

theorem stands_double {x : Binary64} (h : ofText x.jsonText = .ok (.num (.real x))) :
    Stands (.real x) := by
  have hstart : (Cursor.start (Utf8.encode x.jsonText)).rest =
      Utf8.ofChars (Number.real x).jsonText.toList ++ [] := (List.append_nil _).symm
  obtain ⟨b, hpeek, hb, hskip⟩ := skipSpace_of_number hstart
  rw [← hskip] at hpeek
  rw [ofText, read, stepBound, readValue_of_startsNumber hpeek hb, hskip] at h
  cases hread : readSigned (Cursor.start (Utf8.encode x.jsonText)) with
  | error e =>
    rw [hread] at h
    cases h
  | ok r =>
    obtain ⟨n, c⟩ := r
    rw [hread] at h
    cases hpeek' : c.skipSpace.peek? with
    | some b' =>
      simp only [Except.map, readEnd, hpeek', failAhead, fail] at h
      cases h
    | none =>
      simp only [Except.map, readEnd, hpeek', Except.ok.injEq, num.injEq] at h
      rw [peek?, List.head?_eq_none_iff] at hpeek'
      rw [h] at hread
      exact ⟨c, hread, hpeek'⟩

theorem stands_of_legible {n : Number} (h : n.Legible) : Stands n := by
  cases n with
  | real x => exact stands_double h
  | int i => exact stands_int h.1 h.2

/-- A legible number is read back wherever its text stands. -/
theorem readValue_number {n : Number} (h : n.Legible) (fuel depth : Nat) {tail : List UInt8}
    (htail : Closes tail) (hc : c.rest = Utf8.ofChars n.jsonText.toList ++ tail) :
    ∃ c', readValue (fuel + 1) depth c = .ok (.num n, c') ∧ c'.skipSpace.rest = tail := by
  obtain ⟨b, hpeek, hb, hskip⟩ := skipSpace_of_number hc
  obtain ⟨c₀, hread₀, hblank⟩ := stands_of_legible h
  have hextends : Extends tail (Cursor.start (Utf8.ofChars n.jsonText.toList)) c := hc
  obtain ⟨c', hread, hafter⟩ := local_readSigned hextends htail n c₀ hread₀
  refine ⟨c', ?_, hafter.rest_skipSpace htail hblank⟩
  rw [← hskip] at hpeek
  rw [readValue_of_startsNumber hpeek hb, hskip, hread]
  rfl

end Json

end IndexKeeper
