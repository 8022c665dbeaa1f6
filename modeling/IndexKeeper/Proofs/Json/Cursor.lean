import IndexKeeper.Json.Reader
import IndexKeeper.Proofs.Json.Grammar

/-!
# Cursors and the bytes between them

A reader takes a cursor to a later one, and what it read are the bytes between the two (`Spans`).
What a reader is proved to do is told in both directions: the bytes that it read are of a form, and
where bytes of this form are ahead, it reads them and comes to stand behind them.  Here it is told
of blanks, digits and words, and of what stands between the parts of a value.
-/

namespace IndexKeeper

/-- What comes after a step succeeds if the step does and so does the rest. -/
theorem bind_eq_ok_iff {ε α β : Type} {r : Except ε α} {f : α → Except ε β} {b : β} :
    r.bind f = .ok b ↔ ∃ a, r = .ok a ∧ f a = .ok b := by
  cases r with
  | error e => simp [Except.bind]
  | ok a => simp [Except.bind]

theorem map_eq_ok_iff {ε α β : Type} {r : Except ε α} {f : α → β} {b : β} :
    r.map f = .ok b ↔ ∃ a, r = .ok a ∧ f a = b := by
  cases r with
  | error e => simp [Except.map]
  | ok a => simp [Except.map]

namespace Json

open Cursor

variable {c c' c'' : Cursor} {b : UInt8} {bs cs tail : List UInt8}

namespace Cursor

@[simp] theorem rest_advance (c : Cursor) : c.advance.rest = c.rest.tail := by
  rw [advance]
  split
  · next h => simp [h]
  · next b rest h => split <;> simp [h]

@[simp] theorem rest_advanceBy (n : Nat) (c : Cursor) : (advanceBy n c).rest = c.rest.drop n := by
  induction n generalizing c with
  | zero => rfl
  | succ n ih => simp [advanceBy, ih]

theorem peek?_of_rest (h : c.rest = b :: tail) : c.peek? = some b := by
  rw [peek?, h, List.head?_cons]

theorem rest_of_peek? (h : c.peek? = some b) : c.rest = b :: c.advance.rest := by
  rw [peek?, List.head?_eq_some_iff] at h
  obtain ⟨tail, htail⟩ := h
  rw [rest_advance, htail, List.tail_cons]

theorem rest_advance_of_rest (h : c.rest = b :: tail) : c.advance.rest = tail := by
  rw [rest_advance, h, List.tail_cons]

/-- The bytes between two cursors. -/
def Spans (c : Cursor) (bs : List UInt8) (c' : Cursor) : Prop := c.rest = bs ++ c'.rest

namespace Spans

theorem refl (c : Cursor) : c.Spans [] c := rfl

theorem trans (h : c.Spans bs c') (h' : c'.Spans cs c'') : c.Spans (bs ++ cs) c'' := by
  rw [Spans, h, h', List.append_assoc]

theorem advance (h : c.peek? = some b) : c.Spans [b] c.advance := rest_of_peek? h

theorem cons (h : c.peek? = some b) (h' : c.advance.Spans bs c') : c.Spans (b :: bs) c' :=
  (advance h).trans h'

end Spans

/-! ## Bytes of one class -/

/-- No byte of a class is ahead. -/
def Stops (test : UInt8 → Bool) (tail : List UInt8) : Prop :=
  ∀ b, tail.head? = some b → test b = false

theorem Stops.cons {test : UInt8 → Bool} (h : test b = false) (tail : List UInt8) :
    Stops test (b :: tail) := by
  intro b' hb'
  rw [← Option.some.inj hb']
  exact h

theorem Stops.nil (test : UInt8 → Bool) : Stops test [] := by
  intro b hb
  cases hb

theorem Stops.takeWhile_eq_nil {test : UInt8 → Bool} (h : Stops test tail) :
    tail.takeWhile test = [] := by
  cases tail with
  | nil => rfl
  | cons b rest =>
    have hb : test b = false := h b List.head?_cons
    rw [List.takeWhile_cons_of_neg (by rw [hb]; exact Bool.false_ne_true)]

theorem spans_countWhile (test : UInt8 → Bool) (c : Cursor) :
    c.Spans (c.rest.takeWhile test) (c.advanceBy (c.countWhile test)) := by
  have hsplit : (c.rest.takeWhile test ++ c.rest.dropWhile test).drop
      (c.rest.takeWhile test).length = c.rest.dropWhile test := List.drop_left
  rw [List.takeWhile_append_dropWhile] at hsplit
  rw [Spans, rest_advanceBy, countWhile, hsplit, List.takeWhile_append_dropWhile]

/-- All bytes of a class are passed over. -/
theorem rest_of_countWhile {test : UInt8 → Bool} (hbs : ∀ b ∈ bs, test b = true)
    (htail : Stops test tail) (hc : c.rest = bs ++ tail) :
    (c.advanceBy (c.countWhile test)).rest = tail := by
  have htake : c.rest.takeWhile test = bs := by
    rw [hc, List.takeWhile_append_of_pos hbs, htail.takeWhile_eq_nil, List.append_nil]
  rw [rest_advanceBy, countWhile, htake, hc, List.drop_left]

/-! ## Blanks -/

theorem blank_nil : Blank [] := fun _ hb => absurd hb List.not_mem_nil

theorem blank_append {ws ws' : List UInt8} (h : Blank ws) (h' : Blank ws') : Blank (ws ++ ws') := by
  intro b hb
  rcases List.mem_append.mp hb with hb | hb
  · exact h b hb
  · exact h' b hb

theorem isSpace_iff : isSpace b = true ↔ b ∈ ascii " \n\t\r" := by
  simp [isSpace, ascii, or_assoc]

theorem spans_skipSpace (c : Cursor) : ∃ ws, Blank ws ∧ c.Spans ws c.skipSpace := by
  have hblank : Blank (c.rest.takeWhile isSpace) := by
    intro b hb
    exact isSpace_iff.mp (List.all_eq_true.mp List.all_takeWhile b hb)
  exact ⟨_, hblank, spans_countWhile isSpace c⟩

/-- Blanks are passed over up to the first byte that is none. -/
theorem rest_skipSpace_of_blank (hbs : Blank bs) (htail : Stops isSpace tail)
    (hc : c.rest = bs ++ tail) : c.skipSpace.rest = tail :=
  rest_of_countWhile (fun b hb => isSpace_iff.mpr (hbs b hb)) htail hc

theorem rest_skipSpace (c : Cursor) : c.skipSpace.rest = c.rest.dropWhile isSpace := by
  have hspans := spans_countWhile isSpace c
  rw [Spans, ← skipSpace] at hspans
  exact List.append_cancel_left
    (hspans.symm.trans (List.takeWhile_append_dropWhile (p := isSpace)).symm)

/-- Where there is no blank ahead, none is passed over. -/
theorem skipSpace_eq_self (h : Stops isSpace c.rest) : c.skipSpace = c := by
  rw [skipSpace, countWhile, h.takeWhile_eq_nil]
  rfl

theorem skipSpace_of_cons (hc : c.rest = b :: tail) (hb : isSpace b = false) : c.skipSpace = c :=
  skipSpace_eq_self (hc ▸ .cons hb tail)

end Cursor

/-- A byte that a value may start with. -/
structure Opens (b : UInt8) : Prop where
  notSpace : isSpace b = false
  notEnd : b ≠ byte ']'

/-! ## Digits -/

theorem isDigit_iff : isDigit b = true ↔ byte '0' ≤ b ∧ b ≤ byte '9' := by
  rw [isDigit, digit?]
  split
  · next h => exact iff_of_true rfl h
  · next h => exact iff_of_false Bool.false_ne_true h

/-- The digits ahead, where there is one. -/
theorem digits_takeWhile (h : c.peek? = some b) (hb : isDigit b = true) :
    Digits (c.rest.takeWhile isDigit) ∧ (c.rest.takeWhile isDigit).head? = some b := by
  rw [rest_of_peek? h, List.takeWhile_cons_of_pos hb]
  refine ⟨⟨List.cons_ne_nil _ _, fun d hd => ?_⟩, rfl⟩
  rw [← List.takeWhile_cons_of_pos hb] at hd
  exact isDigit_iff.mp (List.all_eq_true.mp List.all_takeWhile _ hd)

theorem Digits.exists_head (h : Digits bs) : ∃ d ds, bs = d :: ds ∧ isDigit d = true := by
  obtain ⟨d, ds, rfl⟩ := List.exists_cons_of_ne_nil h.nonempty
  exact ⟨d, ds, rfl, isDigit_iff.mpr (h.bounds d List.mem_cons_self)⟩

/-! ## Words -/

theorem spans_of_readWord {word : List Char} (h : readWord word c = .ok ((), c')) :
    c.Spans (word.map byte) c' := by
  induction word generalizing c with
  | nil =>
    cases h
    exact .refl _
  | cons w rest ih =>
    rw [readWord] at h
    split at h
    · cases h
    · next b hb =>
      split at h
      · next heq =>
        subst heq
        exact .cons hb (ih h)
      · cases h

/-- A word is read. -/
theorem readWord_map (word : List Char) (hc : c.rest = word.map byte ++ tail) :
    ∃ c', readWord word c = .ok ((), c') ∧ c'.rest = tail := by
  induction word generalizing c with
  | nil => exact ⟨c, rfl, hc⟩
  | cons w rest ih =>
    rw [List.map_cons, List.cons_append] at hc
    obtain ⟨c', hread, hrest⟩ := ih (rest_advance_of_rest hc)
    refine ⟨c', ?_, hrest⟩
    rw [readWord, peek?_of_rest hc]
    simp only [if_true, hread]

/-! ## Between the parts -/

section Between

variable {ws : List UInt8} {first : Bool}

theorem colon_of_readColon (h : readColon c = .ok c') :
    ∃ ws, Blank ws ∧ c.Spans (ws ++ [byte ':']) c' := by
  obtain ⟨ws, hws, hspans⟩ := spans_skipSpace c
  rw [readColon] at h
  split at h
  · cases h
  · next b hb =>
    split at h
    · next hcolon =>
      cases h
      exact ⟨ws, hws, hspans.trans (hcolon ▸ .advance hb)⟩
    · cases h

theorem readColon_of_blank (hws : Blank ws) (hc : c.rest = ws ++ byte ':' :: tail) :
    ∃ c', readColon c = .ok c' ∧ c'.rest = tail := by
  have hrest := rest_skipSpace_of_blank hws (.cons (by decide) tail) hc
  refine ⟨c.skipSpace.advance, ?_, rest_advance_of_rest hrest⟩
  rw [readColon]
  simp only [peek?_of_rest hrest, if_true]

theorem close_of_readMemberStart (h : readMemberStart first c = .ok (false, c')) :
    ∃ ws, Blank ws ∧ c.Spans (ws ++ [byte '}']) c'.advance := by
  obtain ⟨ws, hws, hspans⟩ := spans_skipSpace c
  rw [readMemberStart] at h
  split at h
  · cases h
  · next a ha =>
    split at h
    · next hclose =>
      cases h
      exact ⟨ws, hws, hspans.trans (hclose ▸ .advance ha)⟩
    · cases first with
      | true =>
        simp only [if_true] at h
        split at h
        all_goals cases h
      | false =>
        simp only [Bool.false_eq_true, if_false] at h
        split at h
        · split at h
          · cases h
          · repeat' split at h
            all_goals cases h
        · cases h

theorem quote_of_readMemberStart (h : readMemberStart first c = .ok (true, c')) :
    ∃ sep ws, Separator first sep ∧ Blank ws ∧ c.Spans (sep ++ (ws ++ [byte '"'])) c'.advance := by
  obtain ⟨ws, hws, hspans⟩ := spans_skipSpace c
  rw [readMemberStart] at h
  split at h
  · cases h
  · next a ha =>
    split at h
    · cases h
    · cases first with
      | true =>
        simp only [if_true] at h
        split at h
        · next hquote =>
          cases h
          exact ⟨[], ws, .first, hws, hspans.trans (hquote ▸ .advance ha)⟩
        · cases h
      | false =>
        simp only [Bool.false_eq_true, if_false] at h
        obtain ⟨ws', hws', hspans'⟩ := spans_skipSpace c.skipSpace.advance
        split at h
        · next hcomma =>
          split at h
          · cases h
          · next a' ha' =>
            split at h
            · next hquote =>
              cases h
              exact ⟨_, ws', .comma hws, hws', (hspans.trans (hcomma ▸ .advance ha)).trans
                (hspans'.trans (hquote ▸ .advance ha'))⟩
            · split at h
              all_goals cases h
        · cases h

theorem readMemberStart_of_separator {sep before : List UInt8} (hsep : Separator first sep)
    (hbefore : Blank before) (hc : c.rest = sep ++ (before ++ byte '"' :: tail)) :
    ∃ c', readMemberStart first c = .ok (true, c') ∧ c'.rest = byte '"' :: tail := by
  have hbrace : byte '"' ≠ byte '}' := by decide
  have hcomma : byte ',' ≠ byte '}' := by decide
  cases hsep with
  | first =>
    have hspace := rest_skipSpace_of_blank hbefore (.cons (by decide) _) hc
    refine ⟨_, ?_, hspace⟩
    rw [readMemberStart, peek?_of_rest hspace]
    simp only [hbrace, if_false, if_true]
  | comma hws =>
    rw [List.append_assoc] at hc
    have hspace := rest_skipSpace_of_blank hws (.cons (by decide) _) hc
    have hspace' :=
      rest_skipSpace_of_blank hbefore (.cons (by decide) _) (rest_advance_of_rest hspace)
    refine ⟨_, ?_, hspace'⟩
    rw [readMemberStart, peek?_of_rest hspace]
    simp only [hcomma, if_false, if_true, Bool.false_eq_true, peek?_of_rest hspace']

theorem readEnd_eq_ok_iff : readEnd c = .ok () ↔ Blank c.rest := by
  obtain ⟨ws, hws, hspans⟩ := spans_skipSpace c
  constructor
  · intro h
    rw [readEnd] at h
    split at h
    · next hnone =>
      rw [peek?, List.head?_eq_none_iff] at hnone
      rw [hspans, hnone, List.append_nil]
      exact hws
    · cases h
  · intro hblank
    have hnone : c.skipSpace.rest = [] :=
      rest_skipSpace_of_blank hblank (.nil _) (List.append_nil _).symm
    rw [readEnd, peek?, hnone]
    rfl

end Between

end Json

end IndexKeeper
