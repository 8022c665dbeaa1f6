import IndexKeeper.Json.Reader
import IndexKeeper.Proofs.Json.Quoted

/-!
# Numbers before a tail

A number is read up to the first byte that cannot go on with it, so it is read the same whatever
follows it, as long as that is a comma or the end of what encloses it: `local_readSigned`.  Two
cursors are compared, one with a tail behind the bytes of the other, and every reader of a part of a
number takes such cursors to such cursors (`Local`).
-/

namespace IndexKeeper.Json

open Cursor

/-- What may follow a value: nothing, a comma, or the end of what encloses it. -/
def Closes (tail : List UInt8) : Prop :=
  ∀ b, tail.head? = some b → b = byte ',' ∨ b = byte ']' ∨ b = byte '}'

namespace Closes

variable {tail : List UInt8}

theorem nil : Closes [] := by
  intro b hb
  cases hb

theorem comma (tail : List UInt8) : Closes (byte ',' :: tail) := by
  rintro b hb
  exact .inl (Option.some.inj hb).symm

theorem bracket (tail : List UInt8) : Closes (byte ']' :: tail) := by
  rintro b hb
  exact .inr (.inl (Option.some.inj hb).symm)

theorem brace (tail : List UInt8) : Closes (byte '}' :: tail) := by
  rintro b hb
  exact .inr (.inr (Option.some.inj hb).symm)

/-- A test that fails on what may follow fails on what does. -/
theorem head_false (h : Closes tail) {test : UInt8 → Bool} (hcomma : test (byte ',') = false)
    (hbracket : test (byte ']') = false) (hbrace : test (byte '}') = false) {b : UInt8}
    (hb : tail.head? = some b) : test b = false := by
  rcases h b hb with rfl | rfl | rfl
  · exact hcomma
  · exact hbracket
  · exact hbrace

theorem takeWhile_isDigit (h : Closes tail) : tail.takeWhile isDigit = [] :=
  Stops.takeWhile_eq_nil fun _ => h.head_false (by decide) (by decide) (by decide)

end Closes

/-! ## Reading with more behind -/

/-- A cursor with the bytes of another and a tail behind them. -/
def Extends (tail : List UInt8) (c₀ c : Cursor) : Prop := c.rest = c₀.rest ++ tail

/-- What one reading gives, another gives too, with the tail behind what is left. -/
def Local {α : Type} (tail : List UInt8) (r₀ r : Reading α) : Prop :=
  ∀ a c₀, r₀ = .ok (a, c₀) → ∃ c, r = .ok (a, c) ∧ Extends tail c₀ c

section

variable {α : Type} {tail : List UInt8} {c₀ c : Cursor}

theorem Local.fail (c₀ : Cursor) (problem : ReadProblem) (r : Reading α) :
    Local tail (c₀.fail problem) r := by
  intro a c h
  cases h

theorem Local.ok (a : α) (h : Extends tail c₀ c) : Local tail (.ok (a, c₀)) (.ok (a, c)) := by
  intro a' c₀' h'
  cases h'
  exact ⟨c, rfl, h⟩

namespace Extends

theorem advance (h : Extends tail c₀ c) (hne : c₀.rest ≠ []) :
    Extends tail c₀.advance c.advance := by
  rw [Extends, rest_advance, rest_advance, h, List.tail_append_of_ne_nil hne]

/-- Both advance, or neither does. -/
theorem ite_advance (h : Extends tail c₀ c) {p : Prop} [Decidable p] (hne : p → c₀.rest ≠ []) :
    Extends tail (if p then c₀.advance else c₀) (if p then c.advance else c) := by
  split
  · next hp => exact h.advance (hne hp)
  · exact h

theorem advanceBy (h : Extends tail c₀ c) {n : Nat} (hn : n ≤ c₀.rest.length) :
    Extends tail (c₀.advanceBy n) (c.advanceBy n) := by
  rw [Extends, rest_advanceBy, rest_advanceBy, h, List.drop_append_of_le_length hn]

theorem peek?_of_some (h : Extends tail c₀ c) {b : UInt8} (hb : c₀.peek? = some b) :
    c.peek? = some b := by
  rw [peek?] at hb
  rw [peek?, h, List.head?_append, hb, Option.some_or]

/-- A byte that closes nothing is ahead in both or in neither. -/
theorem peek?_iff (h : Extends tail c₀ c) (htail : Closes tail) {b : UInt8}
    (hcomma : b ≠ byte ',') (hbracket : b ≠ byte ']') (hbrace : b ≠ byte '}') :
    c.peek? = some b ↔ c₀.peek? = some b := by
  refine ⟨fun hb => ?_, h.peek?_of_some⟩
  rw [peek?, h, List.head?_append] at hb
  cases hhead : c₀.rest.head? with
  | some b' =>
    rw [hhead, Option.some_or] at hb
    rw [peek?, hhead, hb]
  | none =>
    rw [hhead, Option.none_or] at hb
    rcases htail b hb with rfl | rfl | rfl
    · exact absurd rfl hcomma
    · exact absurd rfl hbracket
    · exact absurd rfl hbrace

theorem atExponent (h : Extends tail c₀ c) (htail : Closes tail) :
    Json.atExponent c = Json.atExponent c₀ := by
  have hlower := h.peek?_iff htail (b := byte 'e') (by decide) (by decide) (by decide)
  have hupper := h.peek?_iff htail (b := byte 'E') (by decide) (by decide) (by decide)
  rw [Json.atExponent, Json.atExponent, Bool.eq_iff_iff]
  simp only [Bool.or_eq_true, beq_iff_eq, hlower, hupper]

theorem takeWhile_isDigit (h : Extends tail c₀ c) (htail : Closes tail) :
    c.rest.takeWhile isDigit = c₀.rest.takeWhile isDigit := by
  rw [h, List.takeWhile_append, htail.takeWhile_isDigit, List.append_nil]
  split
  · next hall => exact ((List.takeWhile_prefix isDigit).eq_of_length hall).symm
  · rfl

theorem digitsAhead (h : Extends tail c₀ c) (htail : Closes tail) :
    Json.digitsAhead c = Json.digitsAhead c₀ := by
  rw [Json.digitsAhead, Json.digitsAhead, h.takeWhile_isDigit htail]

theorem countWhile_isDigit (h : Extends tail c₀ c) (htail : Closes tail) :
    c.countWhile isDigit = c₀.countWhile isDigit := by
  rw [countWhile, countWhile, h.takeWhile_isDigit htail]

end Extends

theorem length_digitsAhead_le (c : Cursor) : (digitsAhead c).length ≤ c.rest.length :=
  Nat.le_trans (List.length_filterMap_le _ _) (List.takeWhile_prefix isDigit).length_le

theorem countWhile_le (test : UInt8 → Bool) (c : Cursor) : c.countWhile test ≤ c.rest.length :=
  (List.takeWhile_prefix test).length_le

theorem rest_ne_nil_of_peek? {b : UInt8} (h : c.peek? = some b) : c.rest ≠ [] := by
  intro hnil
  rw [peek?, hnil] at h
  cases h

theorem rest_ne_nil_of_atExponent (h : atExponent c = true) : c.rest ≠ [] := by
  rw [atExponent, Bool.or_eq_true, beq_iff_eq, beq_iff_eq] at h
  rcases h with h | h
  · exact rest_ne_nil_of_peek? h
  · exact rest_ne_nil_of_peek? h

/-! ## Numbers -/

variable {negative : Bool} {digits : Nat} {exponent : Int}

theorem local_finishReal (h : Extends tail c₀ c) :
    Local tail (finishReal negative digits exponent c₀)
      (finishReal negative digits exponent c) := by
  rw [finishReal, finishReal]
  split
  · exact .ok _ h
  · exact .fail _ _ _

theorem local_finishInteger (h : Extends tail c₀ c) :
    Local tail (finishInteger negative digits c₀) (finishInteger negative digits c) := by
  rw [finishInteger, finishInteger]
  split
  · split
    · exact .ok _ h
    · exact local_finishReal h
  · exact .ok _ h

theorem extends_readExponentDigits (n : Nat) (ds : List Nat) (h : Extends tail c₀ c)
    (hds : ds.length ≤ c₀.rest.length) :
    (readExponentDigits n ds c).1 = (readExponentDigits n ds c₀).1 ∧
      Extends tail (readExponentDigits n ds c₀).2 (readExponentDigits n ds c).2 := by
  induction ds generalizing n c₀ c with
  | nil => exact ⟨rfl, h⟩
  | cons d rest ih =>
    have hne : c₀.rest ≠ [] := by
      intro hnil
      rw [hnil] at hds
      exact absurd hds (Nat.not_succ_le_zero _)
    have hadvance := h.advance hne
    rw [readExponentDigits, readExponentDigits]
    split
    · refine ih _ hadvance ?_
      rw [rest_advance, List.length_tail]
      exact Nat.le_sub_one_of_lt hds
    · exact ⟨rfl, hadvance⟩

theorem local_readExponent (h : Extends tail c₀ c) (htail : Closes tail) (hne : c₀.rest ≠ []) :
    Local tail (readExponent negative digits exponent c₀)
      (readExponent negative digits exponent c) := by
  have hadvance := h.advance hne
  have hminus := hadvance.peek?_iff htail (b := byte '-') (by decide) (by decide) (by decide)
  have hplus := hadvance.peek?_iff htail (b := byte '+') (by decide) (by decide) (by decide)
  rw [readExponent, readExponent]
  simp only [hminus, hplus]
  have hsign := hadvance.ite_advance
    (p := c₀.advance.peek? = some (byte '-') ∨ c₀.advance.peek? = some (byte '+'))
    fun hsigned => hsigned.elim rest_ne_nil_of_peek? rest_ne_nil_of_peek?
  -- what is behind the sign does not depend on how the cursors came there
  revert hsign
  generalize (if c₀.advance.peek? = some (byte '-') ∨ c₀.advance.peek? = some (byte '+') then
    c₀.advance.advance else c₀.advance) = d₀
  generalize (if c₀.advance.peek? = some (byte '-') ∨ c₀.advance.peek? = some (byte '+') then
    c.advance.advance else c.advance) = d
  intro hsign
  cases hpeek : d₀.peek? with
  | none => exact .fail _ _ _
  | some b =>
    simp only [hsign.peek?_of_some hpeek, hsign.digitsAhead htail]
    split
    · obtain ⟨hvalue, hafter⟩ :=
        extends_readExponentDigits 0 (digitsAhead d₀) hsign (length_digitsAhead_le d₀)
      rcases hread₀ : readExponentDigits 0 (digitsAhead d₀) d₀ with ⟨value, e₀⟩
      rcases hread : readExponentDigits 0 (digitsAhead d₀) d with ⟨value', e⟩
      rw [hread₀, hread] at hvalue hafter
      simp only at hvalue hafter
      subst hvalue
      cases value' with
      | some n => exact local_finishReal hafter
      | none =>
        simp only [hafter.countWhile_isDigit htail]
        split
        · exact .fail _ _ _
        · exact .ok _ (hafter.advanceBy (countWhile_le isDigit e₀))
    · exact .fail _ _ _

theorem local_readFraction (h : Extends tail c₀ c) (htail : Closes tail) (hne : c₀.rest ≠ []) :
    Local tail (readFraction negative digits exponent c₀)
      (readFraction negative digits exponent c) := by
  have hadvance := h.advance hne
  rw [readFraction, readFraction]
  simp only [hadvance.digitsAhead htail]
  cases hds : digitsAhead c₀.advance with
  | nil =>
    simp only
    split <;> exact .fail _ _ _
  | cons d rest =>
    have hlength := length_digitsAhead_le c₀.advance
    rw [hds] at hlength
    have hafter := hadvance.advanceBy hlength
    simp only [hafter.atExponent htail]
    split
    · next hexponent => exact local_readExponent hafter htail (rest_ne_nil_of_atExponent hexponent)
    · exact local_finishReal hafter

theorem local_readAfterWhole {dropped : Nat} (h : Extends tail c₀ c) (htail : Closes tail) :
    Local tail (readAfterWhole negative digits dropped c₀)
      (readAfterWhole negative digits dropped c) := by
  have hpoint := h.peek?_iff htail (b := byte '.') (by decide) (by decide) (by decide)
  rw [readAfterWhole, readAfterWhole]
  simp only [hpoint, h.atExponent htail]
  split
  · next hpeek => exact local_readFraction h htail (rest_ne_nil_of_peek? hpeek)
  · split
    · next hexponent => exact local_readExponent h htail (rest_ne_nil_of_atExponent hexponent)
    · split
      · exact local_finishInteger h
      · exact local_finishReal h

/-- A number is read the same whatever may follow it. -/
theorem local_readNumber (h : Extends tail c₀ c) (htail : Closes tail) :
    Local tail (readNumber negative c₀) (readNumber negative c) := by
  have hlength := length_digitsAhead_le c₀
  rw [readNumber, readNumber, h.digitsAhead htail]
  split
  · split <;> exact .fail _ _ _
  · next more hds =>
    rw [hds] at hlength
    split
    · exact local_readAfterWhole (h.advanceBy (n := 1) (Nat.le_trans (by simp) hlength)) htail
    · exact .fail _ _ _
  · exact local_readAfterWhole (h.advanceBy hlength) htail

/-! ## Signed numbers -/

/-- Read a number with its sign. -/
def readSigned (c : Cursor) : Reading Number :=
  if c.peek? = some (byte '-') then readNumber true c.advance else readNumber false c

theorem local_readSigned (h : Extends tail c₀ c) (htail : Closes tail) :
    Local tail (readSigned c₀) (readSigned c) := by
  have hminus := h.peek?_iff htail (b := byte '-') (by decide) (by decide) (by decide)
  rw [readSigned, readSigned]
  simp only [hminus]
  split
  · next hsigned => exact local_readNumber (h.advance (rest_ne_nil_of_peek? hsigned)) htail
  · exact local_readNumber h htail

/-- A byte that a number starts with. -/
def StartsNumber (b : UInt8) : Prop := b = byte '-' ∨ isDigit b = true

theorem digit?_eq_some {b : UInt8} (h : isDigit b = true) : 48 ≤ b.toNat ∧ b.toNat ≤ 57 := by
  rw [isDigit, digit?] at h
  split at h
  · next hbounds =>
    rw [UInt8.le_iff_toNat_le, UInt8.le_iff_toNat_le] at hbounds
    exact hbounds
  · cases h

/-- Anything but a minus, a point, a slash and a digit starts no number. -/
theorem StartsNumber.ne {b d : UInt8} (h : StartsNumber b) (hd : d.toNat < 45 ∨ 57 < d.toNat) :
    b ≠ d := by
  rintro rfl
  rcases h with rfl | hdigit
  · exact absurd hd (by decide)
  · have hbounds := digit?_eq_some hdigit
    omega

theorem StartsNumber.isSpace {b : UInt8} (h : StartsNumber b) : Cursor.isSpace b = false := by
  have hspace := h.ne (d := byte ' ') (by decide)
  have hbreak := h.ne (d := byte '\n') (by decide)
  have htab := h.ne (d := byte '\t') (by decide)
  have hreturn := h.ne (d := byte '\r') (by decide)
  simp [Cursor.isSpace, hspace, hbreak, htab, hreturn]

/-- Where a number starts, a number is read. -/
theorem readValue_of_startsNumber {b : UInt8} (hpeek : c.skipSpace.peek? = some b)
    (hb : StartsNumber b) (fuel depth : Nat) :
    readValue (fuel + 1) depth c = (readSigned c.skipSpace).map fun r => (.num r.1, r.2) := by
  have hn := hb.ne (d := byte 'n') (by decide)
  have ht := hb.ne (d := byte 't') (by decide)
  have hf := hb.ne (d := byte 'f') (by decide)
  rw [readValue.eq_def, readSigned]
  simp only [hpeek, hn, ht, hf, if_false, Option.some.injEq]
  split
  · rfl
  · next hminus =>
    rw [if_pos (hb.resolve_left hminus)]

end

end IndexKeeper.Json
