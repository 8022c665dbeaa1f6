import IndexKeeper.Number.Decimal

/-!
# Texts of decimals

The two layouts of a decimal agree where JSON writes a fraction in full, and nowhere else
(`json_eq_plain_iff`): elsewhere JSON writes an exponent, or ends a whole number in `.0`, and the
full form has neither.  A fraction in full is two runs of digits around a point, and these give the
decimal back (`Splits.unique`), so two decimals that are written alike are the same.
-/

namespace IndexKeeper.Decimal

variable {d d' : Decimal} {before after : List Char}

/-- The place of the decimal point, counted from before the first digit. -/
def point (d : Decimal) : Int := digitCount d.digits + d.exponent

theorem plain_eq (d : Decimal) : d.plain = pointed (Nat.toDigits 10 d.digits) d.point := rfl

theorem point_eq (d : Decimal) : d.point = (Nat.toDigits 10 d.digits).length + d.exponent := rfl

/-- JSON writes the decimal without an exponent. -/
def InFull (d : Decimal) : Prop := -5 < d.point ∧ d.point ≤ 16

instance (d : Decimal) : Decidable d.InFull :=
  inferInstanceAs (Decidable (_ ∧ _))

theorem isDigit_of_mem_toDigits {n : Nat} {c : Char} (h : c ∈ Nat.toDigits 10 n) :
    c.isDigit = true :=
  Nat.isDigit_of_mem_toDigits (by decide) (by decide) h

theorem isDigit_of_mem_zeros {n : Nat} {c : Char} (h : c ∈ (zeros n).toList) :
    c.isDigit = true := by
  rw [zeros, String.toList_ofList] at h
  rw [List.eq_of_mem_replicate h]
  rfl

/-! ## In full -/

/-- Runs of digits before and behind the point that give a decimal. -/
structure Splits (d : Decimal) (before after : List Char) : Prop where
  digits : ∀ c ∈ before ++ after, c.isDigit = true
  value : Nat.ofDigitChars 10 (before ++ after) 0 = d.digits
  places : (after.length : Int) = -d.exponent

theorem Splits.unique (h : d.Splits before after) (h' : d'.Splits before after) : d = d' := by
  have hdigits : d.digits = d'.digits := h.value.symm.trans h'.value
  have hexponent : d.exponent = d'.exponent := by
    have hplaces := h.places.symm.trans h'.places
    omega
  cases d
  cases d'
  cases hdigits
  cases hexponent
  rfl

theorem ofDigitChars_zeros (n : Nat) (cs : List Char) :
    Nat.ofDigitChars 10 ((zeros n).toList ++ cs) 0 = Nat.ofDigitChars 10 cs 0 := by
  rw [zeros, String.toList_ofList]
  induction n with
  | zero => rfl
  | succ n ih =>
    rw [List.replicate_succ, List.cons_append, Nat.ofDigitChars_cons]
    exact ih

/-- A fraction is written as digits around a point. -/
theorem exists_splits (h : d.exponent < 0) :
    ∃ before after, d.plain.toList = before ++ '.' :: after ∧ d.Splits before after := by
  have hlength := d.point_eq
  rw [plain_eq, pointed]
  split
  · next hpoint =>
    refine ⟨['0'], (zeros d.point.natAbs).toList ++ Nat.toDigits 10 d.digits, ?_, ?_⟩
    · simp only [String.toList_append, String.toList_ofList, List.append_assoc]
      rfl
    · refine ⟨?_, ?_, ?_⟩
      · intro c hc
        simp only [List.mem_append, List.mem_singleton] at hc
        rcases hc with rfl | hzero | hdigit
        · rfl
        · exact isDigit_of_mem_zeros hzero
        · exact isDigit_of_mem_toDigits hdigit
      · rw [List.singleton_append, Nat.ofDigitChars_cons]
        exact (ofDigitChars_zeros _ _).trans Nat.ofDigitChars_ten_toDigits
      · rw [List.length_append, zeros, String.toList_ofList, List.length_replicate]
        omega
  · next hpoint =>
    rw [if_neg (by omega)]
    refine ⟨(Nat.toDigits 10 d.digits).take d.point.natAbs,
      (Nat.toDigits 10 d.digits).drop d.point.natAbs, ?_, ?_⟩
    · simp only [String.toList_append, String.toList_ofList, List.append_assoc]
      rfl
    · refine ⟨?_, ?_, ?_⟩
      · rw [List.take_append_drop]
        exact fun c hc => isDigit_of_mem_toDigits hc
      · rw [List.take_append_drop, Nat.ofDigitChars_ten_toDigits]
      · rw [List.length_drop]
        omega

/-- A whole number is written as digits. -/
theorem isDigit_of_mem_plain (h : 0 ≤ d.exponent) {c : Char} (hc : c ∈ d.plain.toList) :
    c.isDigit = true := by
  have hlength := d.point_eq
  have hpos : 0 < (Nat.toDigits 10 d.digits).length := Nat.length_toDigits_pos
  rw [plain_eq, pointed, if_neg (by omega), if_pos (by omega), String.toList_append,
    String.toList_ofList, List.mem_append] at hc
  rcases hc with hdigit | hzero
  · exact isDigit_of_mem_toDigits hdigit
  · exact isDigit_of_mem_zeros hzero

theorem dot_mem_plain_iff : '.' ∈ d.plain.toList ↔ d.exponent < 0 := by
  constructor
  · intro hdot
    refine Int.not_le.mp fun hwhole => ?_
    have hdigit := isDigit_of_mem_plain hwhole hdot
    cases hdigit
  · intro h
    obtain ⟨before, after, htext, _⟩ := exists_splits h
    rw [htext]
    simp

theorem e_notMem_plain (d : Decimal) : 'e' ∉ d.plain.toList := by
  intro he
  by_cases h : d.exponent < 0
  · obtain ⟨before, after, htext, hsplits⟩ := exists_splits h
    rw [htext, List.mem_append, List.mem_cons] at he
    have hdigit : ('e').isDigit = true := by
      refine hsplits.digits 'e' (List.mem_append.mpr ?_)
      rcases he with hbefore | hpoint | hafter
      · exact Or.inl hbefore
      · cases hpoint
      · exact Or.inr hafter
    cases hdigit
  · have hdigit := isDigit_of_mem_plain (Int.not_lt.mp h) he
    cases hdigit

/-! ## As JSON -/

/-- In full, a whole number ends in `.0`. -/
theorem json_of_inFull (h : d.InFull) :
    d.json = if 0 ≤ d.exponent then d.plain ++ ".0" else d.plain := by
  have hlength := d.point_eq
  obtain ⟨hlow, hhigh⟩ := h
  rw [json]
  simp only [← hlength, if_pos (And.intro hlow hhigh), plain_eq]
  split
  · rw [if_pos (by omega)]
  · rw [if_neg (by omega)]

theorem e_mem_json (h : ¬ d.InFull) : 'e' ∈ d.json.toList := by
  have hlength := d.point_eq
  rw [InFull] at h
  rw [json]
  simp only [← hlength, if_neg h, String.toList_append, List.mem_append]
  exact Or.inl (Or.inl (Or.inr (by decide)))

/-- The JSON text of a decimal is never that of an integer. -/
theorem dot_or_e_mem_json (d : Decimal) : '.' ∈ d.json.toList ∨ 'e' ∈ d.json.toList := by
  by_cases h : d.InFull
  · left
    rw [json_of_inFull h]
    split
    · rw [String.toList_append, List.mem_append]
      exact Or.inr (by decide)
    · next hfraction => exact dot_mem_plain_iff.mpr (Int.not_le.mp hfraction)
  · exact Or.inr (e_mem_json h)

/-! ## Where the layouts agree -/

theorem append_dot_inj {a b a' b' : List Char} (ha : ∀ c ∈ a, c.isDigit = true)
    (ha' : ∀ c ∈ a', c.isDigit = true) (h : a ++ '.' :: b = a' ++ '.' :: b') : a = a' ∧ b = b' := by
  have hpoint : ¬ ('.').isDigit = true := by decide
  have hfirst := congrArg (List.takeWhile Char.isDigit) h
  rw [List.takeWhile_append_of_pos ha, List.takeWhile_append_of_pos ha',
    List.takeWhile_cons_of_neg hpoint, List.takeWhile_cons_of_neg hpoint, List.append_nil,
    List.append_nil] at hfirst
  subst hfirst
  exact ⟨rfl, (List.cons.inj (List.append_cancel_left h)).2⟩

/-- Digits around a point give one decimal. -/
theorem eq_of_plain_eq (h : d.exponent < 0) (h' : d'.exponent < 0) (heq : d.plain = d'.plain) :
    d = d' := by
  obtain ⟨before, after, htext, hsplits⟩ := exists_splits h
  obtain ⟨before', after', htext', hsplits'⟩ := exists_splits h'
  rw [heq, htext'] at htext
  obtain ⟨rfl, rfl⟩ := append_dot_inj
    (fun c hc => hsplits'.digits c (List.mem_append_left _ hc))
    (fun c hc => hsplits.digits c (List.mem_append_left _ hc)) htext
  exact hsplits.unique hsplits'

/-- A whole number with `.0` behind it is no fraction without trailing zeros. -/
theorem plain_append_ne (h : 0 ≤ d.exponent) (h' : d'.digits % 10 ≠ 0) :
    d.plain ++ ".0" ≠ d'.plain := by
  intro heq
  have hdot : '.' ∈ d'.plain.toList := by
    rw [← heq, String.toList_append, List.mem_append]
    exact Or.inr (by decide)
  obtain ⟨before, after, htext, hsplits⟩ := exists_splits (dot_mem_plain_iff.mp hdot)
  rw [← heq, String.toList_append, show ".0".toList = ['.', '0'] from rfl] at htext
  obtain ⟨rfl, rfl⟩ := append_dot_inj (fun c hc => isDigit_of_mem_plain h hc)
    (fun c hc => hsplits.digits c (List.mem_append_left _ hc)) htext
  have hvalue := hsplits.value
  rw [Nat.ofDigitChars_append, Nat.ofDigitChars_cons, Nat.ofDigitChars_nil] at hvalue
  have hzero : '0'.toNat - '0'.toNat = 0 := rfl
  omega

/-- The layouts agree where JSON writes a fraction in full. -/
theorem json_eq_plain_iff (h' : d'.exponent < 0 → d'.digits % 10 ≠ 0) :
    d.json = d'.plain ↔ d = d' ∧ d.exponent < 0 ∧ d.InFull := by
  constructor
  · intro heq
    have hfull : d.InFull := Decidable.byContradiction fun hnot =>
      e_notMem_plain d' (heq ▸ e_mem_json hnot)
    have hdot : '.' ∈ d'.plain.toList := by
      rcases dot_or_e_mem_json d with hdot | he
      · exact heq ▸ hdot
      · exact absurd (heq ▸ he) (e_notMem_plain d')
    have hfraction' := dot_mem_plain_iff.mp hdot
    rw [json_of_inFull hfull] at heq
    split at heq
    · next hwhole => exact absurd heq (plain_append_ne hwhole (h' hfraction'))
    · next hfraction =>
      exact ⟨eq_of_plain_eq (Int.not_le.mp hfraction) hfraction' heq, Int.not_le.mp hfraction,
        hfull⟩
  · rintro ⟨rfl, hfraction, hfull⟩
    rw [json_of_inFull hfull, if_neg (Int.not_le.mpr hfraction)]

end IndexKeeper.Decimal
