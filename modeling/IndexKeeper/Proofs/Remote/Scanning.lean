import IndexKeeper.Proofs.Json.Numeral
import IndexKeeper.Proofs.Json.Spelling
import IndexKeeper.Remote.Acknowledgement

/-!
# Parts that are passed over

The values of the fields that an acknowledgement does not ask for are passed over unread.  Here are
their parts that hold no brackets: what is passed over as a number, an escape, a text, a key or a
scalar is one of the grammar, and each of these is passed over to its end.  A number goes on as long
as it can, so one that is passed over is followed by a byte with which no number goes on (`Ends`).
-/

namespace IndexKeeper.Acknowledgement

open Json Cursor

variable {c c' : Cursor} {b : UInt8} {bs tail : List UInt8}

/-! ## Numbers -/

/-- Whether a number may go on with a byte. -/
def continuesNumber (b : UInt8) : Bool :=
  isDigit b || b == byte '.' || b == byte 'e' || b == byte 'E'

/-- No number goes on here. -/
abbrev Ends (tail : List UInt8) : Prop := Stops continuesNumber tail

namespace Ends

theorem stops_isDigit (h : Ends tail) : Stops isDigit tail := by
  intro b hb
  have hnot := h b hb
  simp only [continuesNumber, Bool.or_eq_false_iff] at hnot
  exact hnot.1.1.1

theorem peek?_ne_point (h : Ends tail) (hc : c.rest = tail) : c.peek? ≠ some (byte '.') := by
  intro hpeek
  have hnot := h (byte '.') (hc ▸ hpeek)
  cases hnot

theorem atExponent (h : Ends tail) (hc : c.rest = tail) : Json.atExponent c = false := by
  cases hpeek : c.peek? with
  | none => rw [Json.atExponent, hpeek]; rfl
  | some b =>
    have hnot := h b (hc ▸ hpeek)
    simp only [continuesNumber, Bool.or_eq_false_iff] at hnot
    simp [Json.atExponent, hpeek, hnot.1.2, hnot.2]

end Ends

theorem digits_of_skipDigits (h : c.peek? = some b) (hb : isDigit b = true) :
    ∃ ds, Digits ds ∧ ds.head? = some b ∧ c.Spans ds (skipDigits c) := by
  obtain ⟨hdigits, hhead⟩ := digits_takeWhile h hb
  exact ⟨_, hdigits, hhead, spans_countWhile isDigit c⟩

theorem rest_skipDigits (h : Digits bs) (htail : Stops isDigit tail) (hc : c.rest = bs ++ tail) :
    (skipDigits c).rest = tail :=
  rest_of_countWhile (fun b hb => isDigit_iff.mpr (h.bounds b hb)) htail hc

/-- Where digits are ahead, the byte ahead is one. -/
theorem any_isDigit_of_digits (h : Digits bs) (hc : c.rest = bs ++ tail) :
    c.peek?.any isDigit = true := by
  obtain ⟨d, ds, rfl, hd⟩ := h.exists_head
  rw [peek?_of_rest hc]
  exact hd

theorem exists_of_any_isDigit (h : c.peek?.any isDigit = true) :
    ∃ b, c.peek? = some b ∧ isDigit b = true := by
  cases hpeek : c.peek? with
  | none => rw [hpeek] at h; cases h
  | some b => rw [hpeek] at h; exact ⟨b, rfl, h⟩

/-! ### Exponents -/

/-- Pass over an exponent if there is one. -/
def skipExponentPart (c : Cursor) : Except ReadError Cursor :=
  if atExponent c then skipExponent c else .ok c

/-- Pass over the sign of an exponent if there is one. -/
def skipSign (c : Cursor) : Cursor :=
  if c.peek? = some (byte '+') ∨ c.peek? = some (byte '-') then c.advance else c

theorem skipExponent_eq (c : Cursor) :
    skipExponent c =
      if (skipSign c.advance).peek?.any isDigit then .ok (skipDigits (skipSign c.advance))
      else (skipSign c.advance).advance.fail .invalidNumber := rfl

theorem sign_of_skipSign (c : Cursor) :
    ∃ sign, (sign = [] ∨ sign = ascii "+" ∨ sign = ascii "-") ∧ c.Spans sign (skipSign c) := by
  rw [skipSign]
  split
  · next h =>
    rcases h with h | h
    · exact ⟨_, .inr (.inl rfl), .advance h⟩
    · exact ⟨_, .inr (.inr rfl), .advance h⟩
  · exact ⟨[], .inl rfl, .refl c⟩

theorem rest_skipSign {sign ds : List UInt8}
    (hsign : sign = [] ∨ sign = ascii "+" ∨ sign = ascii "-") (h : Digits ds)
    (hc : c.rest = sign ++ (ds ++ tail)) : (skipSign c).rest = ds ++ tail := by
  obtain ⟨d, rest, rfl, hd⟩ := h.exists_head
  rw [skipSign]
  rcases hsign with rfl | rfl | rfl
  · have hplus : d ≠ byte '+' := by
      rintro rfl
      cases hd
    have hminus : d ≠ byte '-' := by
      rintro rfl
      cases hd
    rw [if_neg, hc]
    · rfl
    · rw [peek?_of_rest hc]
      simp [hplus, hminus]
  · rw [if_pos (.inl (peek?_of_rest hc)), rest_advance_of_rest hc]
    rfl
  · rw [if_pos (.inr (peek?_of_rest hc)), rest_advance_of_rest hc]
    rfl

theorem atExponent_iff : atExponent c = true ↔ ∃ b ∈ ascii "eE", c.peek? = some b := by
  simp [atExponent, ascii]

theorem exponent_of_skip (h : skipExponentPart c = .ok c') :
    ∃ e, Exponent e ∧ c.Spans e c' := by
  rw [skipExponentPart] at h
  split at h
  · next hat =>
    obtain ⟨letter, hletter, hpeek⟩ := atExponent_iff.mp hat
    obtain ⟨sign, hsign, hspans⟩ := sign_of_skipSign c.advance
    rw [skipExponent_eq] at h
    split at h
    · next hany =>
      cases h
      obtain ⟨d, hd, hdigit⟩ := exists_of_any_isDigit hany
      obtain ⟨ds, hds, _, hspans'⟩ := digits_of_skipDigits hd hdigit
      exact ⟨_, .digits hletter hsign hds, .cons hpeek (hspans.trans hspans')⟩
    · cases h
  · cases h
    exact ⟨[], .none, .refl _⟩

theorem skip_of_exponent {e : List UInt8} (h : Exponent e) (htail : Ends tail)
    (hc : c.rest = e ++ tail) : ∃ c', skipExponentPart c = .ok c' ∧ c'.rest = tail := by
  rw [skipExponentPart]
  cases h with
  | none =>
    rw [htail.atExponent hc]
    exact ⟨c, rfl, hc⟩
  | digits hletter hsign hds =>
    rw [List.cons_append, List.append_assoc] at hc
    have hrest := rest_skipSign hsign hds (rest_advance_of_rest hc)
    rw [if_pos (atExponent_iff.mpr ⟨_, hletter, peek?_of_rest hc⟩), skipExponent_eq,
      if_pos (any_isDigit_of_digits hds hrest)]
    exact ⟨_, rfl, rest_skipDigits hds htail.stops_isDigit hrest⟩

/-- Digits go on neither into an exponent nor behind it, and neither is a fraction. -/
theorem stops_exponent {e : List UInt8} (h : Exponent e) (htail : Ends tail) :
    Stops isDigit (e ++ tail) ∧ ∀ c : Cursor, c.rest = e ++ tail → c.peek? ≠ some (byte '.') := by
  cases h with
  | none => exact ⟨htail.stops_isDigit, fun c hc => htail.peek?_ne_point hc⟩
  | @digits letter sign ds hletter hsign hds =>
    obtain ⟨hdigit, hpoint⟩ : isDigit letter = false ∧ letter ≠ byte '.' := by
      obtain rfl | rfl : letter = byte 'e' ∨ letter = byte 'E' := by simpa [ascii] using hletter
      all_goals decide
    refine ⟨.cons hdigit _, fun c hc hpeek => hpoint ?_⟩
    rw [List.cons_append] at hc
    exact Option.some.inj ((peek?_of_rest hc).symm.trans hpeek)

/-! ### Fractions -/

/-- Pass over what follows the whole digits. -/
def skipAfterWhole (c : Cursor) : Except ReadError Cursor :=
  if c.peek? = some (byte '.') then skipFraction c else skipExponentPart c

theorem skipFraction_eq (c : Cursor) :
    skipFraction c =
      if c.advance.peek?.any isDigit then skipExponentPart (skipDigits c.advance)
      else c.advance.failAhead .invalidNumber := rfl

theorem fraction_of_skip (h : skipAfterWhole c = .ok c') :
    ∃ f e, Fraction f ∧ Exponent e ∧ c.Spans (f ++ e) c' := by
  rw [skipAfterWhole] at h
  split at h
  · next hpoint =>
    rw [skipFraction_eq] at h
    split at h
    · next hany =>
      obtain ⟨d, hd, hdigit⟩ := exists_of_any_isDigit hany
      obtain ⟨ds, hds, _, hspans⟩ := digits_of_skipDigits hd hdigit
      obtain ⟨e, he, hspans'⟩ := exponent_of_skip h
      exact ⟨_, e, .digits hds, he, .cons hpoint (hspans.trans hspans')⟩
    · cases h
  · obtain ⟨e, he, hspans⟩ := exponent_of_skip h
    exact ⟨[], e, .none, he, hspans⟩

theorem skip_of_fraction {f e : List UInt8} (hf : Fraction f) (he : Exponent e)
    (htail : Ends tail) (hc : c.rest = f ++ (e ++ tail)) :
    ∃ c', skipAfterWhole c = .ok c' ∧ c'.rest = tail := by
  obtain ⟨hstops, hpoint⟩ := stops_exponent he htail
  rw [skipAfterWhole]
  cases hf with
  | none =>
    rw [if_neg (hpoint c hc)]
    exact skip_of_exponent he htail hc
  | digits hds =>
    have hadvance := rest_advance_of_rest hc
    rw [if_pos (peek?_of_rest hc), skipFraction_eq, if_pos (any_isDigit_of_digits hds hadvance)]
    exact skip_of_exponent he htail (rest_skipDigits hds hstops hadvance)

theorem stops_fraction {f e : List UInt8} (hf : Fraction f) (he : Exponent e) (htail : Ends tail) :
    Stops isDigit (f ++ (e ++ tail)) := by
  cases hf with
  | none => exact (stops_exponent he htail).1
  | digits hds => exact .cons (by decide) _

/-! ### Whole numbers -/

theorem skipNumber_eq (c : Cursor) :
    skipNumber c =
      if c.peek? = some (byte '0') then
        if c.advance.peek?.any isDigit then c.advance.failAhead .invalidNumber
        else skipAfterWhole c.advance
      else if c.peek?.any isDigit then skipAfterWhole (skipDigits c)
      else c.advance.fail .invalidNumber := rfl

/-- A number that is passed over is a number. -/
theorem magnitude_of_skip (h : skipNumber c = .ok c') : ∃ n, Magnitude n ∧ c.Spans n c' := by
  rw [skipNumber_eq] at h
  split at h
  · next hzero =>
    split at h
    · cases h
    · obtain ⟨f, e, hf, he, hspans⟩ := fraction_of_skip h
      refine ⟨_, .mk .zero hf he, ?_⟩
      rw [List.append_assoc]
      exact .cons hzero hspans
  · next hzero =>
    split at h
    · next hany =>
      obtain ⟨d, hd, hdigit⟩ := exists_of_any_isDigit hany
      obtain ⟨ds, hds, hhead, hspans⟩ := digits_of_skipDigits hd hdigit
      obtain ⟨f, e, hf, he, hspans'⟩ := fraction_of_skip h
      refine ⟨_, .mk (.digits hds ?_) hf he, ?_⟩
      · rw [hhead, ← hd]
        exact hzero
      · rw [List.append_assoc]
        exact hspans.trans hspans'
    · cases h

/-- Every number is passed over, to its end. -/
theorem skip_of_magnitude {n : List UInt8} (h : Magnitude n) (htail : Ends tail)
    (hc : c.rest = n ++ tail) : ∃ c', skipNumber c = .ok c' ∧ c'.rest = tail := by
  obtain ⟨hwhole, hf, he⟩ := h
  rw [List.append_assoc, List.append_assoc] at hc
  have hstops := stops_fraction hf he htail
  rw [skipNumber_eq]
  cases hwhole with
  | zero =>
    have hadvance := rest_advance_of_rest hc
    have hnone : ¬ c.advance.peek?.any isDigit = true := by
      intro hany
      obtain ⟨d, hd, hdigit⟩ := exists_of_any_isDigit hany
      rw [peek?, hadvance] at hd
      exact absurd hdigit (by rw [hstops d hd]; exact Bool.false_ne_true)
    rw [if_pos (peek?_of_rest hc), if_neg hnone]
    exact skip_of_fraction hf he htail hadvance
  | digits hds hhead =>
    have hzero : c.peek? ≠ some (byte '0') := by
      obtain ⟨d, ds, rfl, _⟩ := hds.exists_head
      rw [peek?_of_rest hc]
      exact hhead
    rw [if_neg hzero, if_pos (any_isDigit_of_digits hds hc)]
    exact skip_of_fraction hf he htail (rest_skipDigits hds hstops hc)

/-! ## Texts -/

theorem escape_of_skip (h : skipEscape c = .ok c') : ∃ esc, RawEscape esc ∧ c.Spans esc c' := by
  rw [skipEscape] at h
  split at h
  · cases h
  · next b hb =>
    split at h
    · next hu =>
      subst hu
      obtain ⟨⟨n, c₁⟩, hread, rfl⟩ := map_eq_ok_iff.mp h
      obtain ⟨digits, hdigits, hspans⟩ := hex_of_readHex hread
      exact ⟨_, .number hdigits, .cons hb hspans⟩
    · split at h
      · next hletter =>
        cases h
        obtain ⟨ch, hch⟩ := Option.isSome_iff_exists.mp hletter
        obtain ⟨l, hmem, rfl⟩ := exists_of_escapeLetter? hch
        exact ⟨_, .letter hmem, .advance hb⟩
      · cases h

theorem skip_of_escape {esc : List UInt8} (h : RawEscape esc) (hc : c.rest = esc ++ tail) :
    ∃ c', skipEscape c = .ok c' ∧ c'.rest = tail := by
  rw [skipEscape]
  cases h with
  | letter hl =>
    obtain ⟨hnot, hletter⟩ := escapeLetter?_of_mem hl
    refine ⟨c.advance, ?_, rest_advance_of_rest hc⟩
    simp [peek?_of_rest hc, hnot, hletter]
  | number hd =>
    obtain ⟨c', hread, hrest⟩ := readHex_of_hex hd (rest_advance_of_rest hc)
    refine ⟨c', ?_, hrest⟩
    rw [peek?_of_rest hc, hread]
    rfl

theorem rawText_of_skip {fuel : Nat} (h : skipTextBytes fuel c = .ok c') :
    ∃ raw, RawText raw ∧ c.Spans (raw ++ [byte '"']) c' := by
  induction fuel generalizing c with
  | zero => cases h
  | succ fuel ih =>
    rw [skipTextBytes] at h
    split at h
    · cases h
    · next b hb =>
      split at h
      · next hquote =>
        cases h
        exact ⟨[], .nil, hquote ▸ .advance hb⟩
      · next hquote =>
        split at h
        · next hbackslash =>
          subst hbackslash
          split at h
          · cases h
          · next c₁ hskip =>
            obtain ⟨esc, hesc, hspans⟩ := escape_of_skip hskip
            obtain ⟨raw, hraw, hspans'⟩ := ih h
            refine ⟨_, .escape hesc hraw, ?_⟩
            rw [List.cons_append, List.append_assoc]
            exact .cons hb (hspans.trans hspans')
        · next hbackslash =>
          split at h
          · cases h
          · next hcontrol =>
            obtain ⟨raw, hraw, hspans⟩ := ih h
            exact ⟨_, .plain ⟨hquote, hbackslash, hcontrol⟩ hraw, .cons hb hspans⟩

theorem skip_of_rawText {raw : List UInt8} (h : RawText raw) {fuel : Nat}
    (hfuel : raw.length < fuel) (hc : c.rest = raw ++ byte '"' :: tail) :
    ∃ c', skipTextBytes fuel c = .ok c' ∧ c'.rest = tail := by
  have hnot : byte '\\' ≠ byte '"' := by decide
  induction h generalizing fuel c with
  | nil =>
    obtain ⟨k, rfl⟩ := Nat.exists_eq_succ_of_ne_zero (Nat.ne_zero_of_lt hfuel)
    refine ⟨c.advance, ?_, rest_advance_of_rest hc⟩
    rw [skipTextBytes, peek?_of_rest hc]
    simp
  | plain hb hraw ih =>
    obtain ⟨hquote, hbackslash, hcontrol⟩ := hb
    obtain ⟨k, rfl⟩ := Nat.exists_eq_succ_of_ne_zero (Nat.ne_zero_of_lt hfuel)
    obtain ⟨c', hskip, hrest⟩ := ih (Nat.lt_of_succ_lt_succ hfuel) (rest_advance_of_rest hc)
    refine ⟨c', ?_, hrest⟩
    rw [skipTextBytes, peek?_of_rest hc]
    simp only [hquote, hbackslash, hcontrol, if_false]
    exact hskip
  | @escape esc raw he hraw ih =>
    obtain ⟨k, rfl⟩ := Nat.exists_eq_succ_of_ne_zero (Nat.ne_zero_of_lt hfuel)
    rw [List.cons_append, List.append_assoc] at hc
    obtain ⟨c₁, hescape, hrest₁⟩ := skip_of_escape he (rest_advance_of_rest hc)
    have hfuel' : raw.length < k := by
      rw [List.length_cons, List.length_append] at hfuel
      omega
    obtain ⟨c', hskip, hrest⟩ := ih hfuel' hrest₁
    refine ⟨c', ?_, hrest⟩
    rw [skipTextBytes, peek?_of_rest hc]
    simp only [hnot, if_false, if_true, hescape]
    exact hskip

theorem skipText_of_rawText {raw : List UInt8} (h : RawText raw)
    (hc : c.rest = raw ++ byte '"' :: tail) : ∃ c', skipText c = .ok c' ∧ c'.rest = tail := by
  refine skip_of_rawText h ?_ hc
  rw [hc, List.length_append]
  omega

/-! ## Keys -/

theorem key_of_skip (h : skipKey c = .ok c') :
    ∃ raw key, RawText raw ∧ KeyPart raw key ∧ c.Spans key c' := by
  obtain ⟨ws, hws, hspans⟩ := spans_skipSpace c
  rw [skipKey] at h
  split at h
  · cases h
  · next b hb =>
    split at h
    · next hquote =>
      subst hquote
      split at h
      · cases h
      · next c₁ htext =>
        obtain ⟨raw, hraw, hspans₁⟩ := rawText_of_skip htext
        obtain ⟨ws', hws', hspans₂⟩ := colon_of_readColon h
        refine ⟨raw, _, hraw, .mk hws hws', hspans.trans (.cons hb ?_)⟩
        rw [List.append_cons]
        exact hspans₁.trans hspans₂
    · cases h

theorem skip_of_key {raw key : List UInt8} (hraw : RawText raw) (hkey : KeyPart raw key)
    (hc : c.rest = key ++ tail) : ∃ c', skipKey c = .ok c' ∧ c'.rest = tail := by
  obtain ⟨hbefore, hbetween⟩ := hkey
  simp only [List.append_assoc, List.cons_append, List.nil_append] at hc
  have hquote := rest_skipSpace_of_blank hbefore (.cons (by decide) _) hc
  obtain ⟨c₁, htext, hrest⟩ := skipText_of_rawText hraw (rest_advance_of_rest hquote)
  obtain ⟨c', hcolon, hrest'⟩ := readColon_of_blank hbetween hrest
  refine ⟨c', ?_, hrest'⟩
  rw [skipKey]
  simp only [peek?_of_rest hquote, if_true, htext, hcolon]

/-! ## Scalars -/

/-- Pass over a value that is no brackets, given the byte that it starts with. -/
def skipScalar (b : UInt8) (c : Cursor) : Except ReadError Cursor :=
  if b = byte 'n' then (readWord "ull".toList c.advance).map Prod.snd
  else if b = byte 't' then (readWord "rue".toList c.advance).map Prod.snd
  else if b = byte 'f' then (readWord "alse".toList c.advance).map Prod.snd
  else if b = byte '-' then skipNumber c.advance
  else if isDigit b then skipNumber c
  else if b = byte '"' then skipText c.advance
  else c.failAhead .noValue

theorem spans_of_word {w : Char} {word : List Char} (hpeek : c.peek? = some (byte w))
    (h : (readWord word c.advance).map Prod.snd = .ok c') : c.Spans ((w :: word).map byte) c' := by
  obtain ⟨⟨_, c₁⟩, hread, rfl⟩ := map_eq_ok_iff.mp h
  exact .cons hpeek (spans_of_readWord hread)

theorem scalar_of_skip (hpeek : c.peek? = some b) (h : skipScalar b c = .ok c') :
    ∃ v, Scalar v ∧ c.Spans v c' := by
  rw [skipScalar] at h
  split at h
  · next hb => exact ⟨_, .word (w := "null") (by decide), spans_of_word (hb ▸ hpeek) h⟩
  · split at h
    · next hb => exact ⟨_, .word (w := "true") (by decide), spans_of_word (hb ▸ hpeek) h⟩
    · split at h
      · next hb => exact ⟨_, .word (w := "false") (by decide), spans_of_word (hb ▸ hpeek) h⟩
      · split at h
        · next hb =>
          obtain ⟨n, hn, hspans⟩ := magnitude_of_skip h
          exact ⟨_, .number (.negative hn), .cons (hb ▸ hpeek) hspans⟩
        · split at h
          · obtain ⟨n, hn, hspans⟩ := magnitude_of_skip h
            exact ⟨n, .number (.positive hn), hspans⟩
          · split at h
            · next hb =>
              obtain ⟨raw, hraw, hspans⟩ := rawText_of_skip h
              exact ⟨_, .text hraw, .cons (hb ▸ hpeek) hspans⟩
            · cases h

theorem head_of_magnitude {n : List UInt8} (h : Magnitude n) :
    ∃ d ds, n = d :: ds ∧ isDigit d = true := by
  obtain ⟨hwhole, _, _⟩ := h
  cases hwhole with
  | zero => exact ⟨_, _, rfl, by decide⟩
  | digits hds _ =>
    obtain ⟨d, ds, rfl, hd⟩ := hds.exists_head
    exact ⟨d, _, rfl, hd⟩

theorem head_of_scalar {v : List UInt8} (h : Scalar v) :
    ∃ b bs, v = b :: bs ∧ Opens b ∧ b ≠ byte '[' ∧ b ≠ byte '{' := by
  have hnumber {b : UInt8} (hb : StartsNumber b) : Opens b ∧ b ≠ byte '[' ∧ b ≠ byte '{' :=
    ⟨⟨hb.isSpace, hb.ne (by decide)⟩, hb.ne (by decide), hb.ne (by decide)⟩
  cases h with
  | word hw =>
    simp only [List.mem_cons, List.not_mem_nil, or_false] at hw
    rcases hw with rfl | rfl | rfl
    · exact ⟨byte 'n', _, rfl, ⟨by decide, by decide⟩, by decide, by decide⟩
    · exact ⟨byte 't', _, rfl, ⟨by decide, by decide⟩, by decide, by decide⟩
    · exact ⟨byte 'f', _, rfl, ⟨by decide, by decide⟩, by decide, by decide⟩
  | number hn =>
    cases hn with
    | positive hm =>
      obtain ⟨d, ds, rfl, hd⟩ := head_of_magnitude hm
      exact ⟨d, ds, rfl, hnumber (.inr hd)⟩
    | negative hm => exact ⟨_, _, rfl, hnumber (.inl rfl)⟩
  | text hraw => exact ⟨_, _, rfl, ⟨by decide, by decide⟩, by decide, by decide⟩

theorem skipScalar_of_isDigit (h : isDigit b = true) (c : Cursor) :
    skipScalar b c = skipNumber c := by
  have hne : ∀ a, isDigit a = false → b ≠ a := by
    rintro a ha rfl
    exact absurd h (by rw [ha]; exact Bool.false_ne_true)
  rw [skipScalar, if_neg (hne (byte 'n') (by decide)), if_neg (hne (byte 't') (by decide)),
    if_neg (hne (byte 'f') (by decide)), if_neg (hne (byte '-') (by decide)), if_pos h]

theorem skip_of_word {w : Char} (word : List Char) (hc : c.rest = (w :: word).map byte ++ tail) :
    ∃ c', (readWord word c.advance).map Prod.snd = .ok c' ∧ c'.rest = tail := by
  obtain ⟨c', hread, hrest⟩ := readWord_map word (rest_advance_of_rest hc)
  exact ⟨c', map_eq_ok_iff.mpr ⟨_, hread, rfl⟩, hrest⟩

theorem skip_of_scalar {v : List UInt8} (h : Scalar v) (htail : Ends tail)
    (hc : c.rest = v ++ tail) :
    ∃ b c', c.peek? = some b ∧ skipScalar b c = .ok c' ∧ c'.rest = tail := by
  cases h with
  | word hw =>
    simp only [List.mem_cons, List.not_mem_nil, or_false] at hw
    rcases hw with rfl | rfl | rfl
    · obtain ⟨c', hskip, hrest⟩ := skip_of_word (w := 'n') "ull".toList hc
      exact ⟨byte 'n', c', peek?_of_rest hc, hskip, hrest⟩
    · obtain ⟨c', hskip, hrest⟩ := skip_of_word (w := 't') "rue".toList hc
      exact ⟨byte 't', c', peek?_of_rest hc, hskip, hrest⟩
    · obtain ⟨c', hskip, hrest⟩ := skip_of_word (w := 'f') "alse".toList hc
      exact ⟨byte 'f', c', peek?_of_rest hc, hskip, hrest⟩
  | number hn =>
    cases hn with
    | positive hm =>
      obtain ⟨c', hskip, hrest⟩ := skip_of_magnitude hm htail hc
      obtain ⟨d, ds, rfl, hd⟩ := head_of_magnitude hm
      exact ⟨d, c', peek?_of_rest hc, (skipScalar_of_isDigit hd c).trans hskip, hrest⟩
    | negative hm =>
      obtain ⟨c', hskip, hrest⟩ := skip_of_magnitude hm htail (rest_advance_of_rest hc)
      exact ⟨byte '-', c', peek?_of_rest hc, hskip, hrest⟩
  | text hraw =>
    rw [List.cons_append, List.append_assoc] at hc
    obtain ⟨c', hskip, hrest⟩ := skipText_of_rawText hraw (rest_advance_of_rest hc)
    exact ⟨byte '"', c', peek?_of_rest hc, hskip, hrest⟩

end IndexKeeper.Acknowledgement
