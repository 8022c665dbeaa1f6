import IndexKeeper.Proofs.Remote.Scanning

/-!
# What is passed over

What is passed over is a value of the grammar, and every value of the grammar is passed over,
however deep it nests: `value_of_skip` and `skip_of_value`.

`skipValue` holds no tree but the brackets that are open.  What is left to read then is what closes
all of them, one after the other (`Leaves`).  The two functions call each other on a bound that
counts down, so what they pass over is proved for both by induction on it (`PassesValues`), and that
they pass over what the grammar derives by induction on the derivation, with the steps it takes
(`Passed`).
-/

namespace IndexKeeper.Acknowledgement

open Json Cursor

variable {c c' : Cursor} {b : UInt8} {bs tail : List UInt8}

/-- The brackets of an enclosure. -/
def Enclosure.bracket : Enclosure → Bracket
  | .list => .square
  | .object => .curly

theorem Enclosure.close_eq (e : Enclosure) : e.close = e.bracket.closing := by
  cases e <;> rfl

/-- Pass over what stands before the blanks of a value in an enclosure. -/
def skipLead : Enclosure → Cursor → Except ReadError Cursor
  | .list, c => .ok c
  | .object, c => skipKey c

theorem lead_of_skip {e : Enclosure} (h : skipLead e c = .ok c') :
    ∃ lead, Lead e.bracket lead ∧ c.Spans lead c' := by
  cases e with
  | list =>
    cases h
    exact ⟨[], .item, .refl _⟩
  | object =>
    obtain ⟨raw, key, hraw, hkey, hspans⟩ := key_of_skip h
    exact ⟨key, .member hraw hkey, hspans⟩

theorem skip_of_lead {e : Enclosure} {lead : List UInt8} (h : Lead e.bracket lead)
    (hc : c.rest = lead ++ tail) : ∃ c', skipLead e c = .ok c' ∧ c'.rest = tail := by
  cases e with
  | list =>
    cases h
    exact ⟨c, rfl, hc⟩
  | object =>
    cases h with
    | member hraw hkey => exact skip_of_key hraw hkey hc

/-- What closes the brackets that are open around a value. -/
inductive Leaves : List Enclosure → List UInt8 → Prop
  | nil : Leaves [] []
  | cons {e : Enclosure} {within : List Enclosure} {rest bs : List UInt8}
    (hrest : Derives (.rest e.bracket) rest) (h : Leaves within bs) :
    Leaves (e :: within) (rest ++ bs)

/-- Pass over the lead of a value and the value. -/
def enter (fuel : Nat) (e : Enclosure) (within : List Enclosure) (c : Cursor) :
    Except ReadError Cursor :=
  match skipLead e c with
  | .error problem => .error problem
  | .ok c => skipValue fuel (e :: within) c

theorem enter_eq_bind (fuel : Nat) (e : Enclosure) (within : List Enclosure) (c : Cursor) :
    enter fuel e within c = (skipLead e c).bind (skipValue fuel (e :: within)) := by
  rw [enter]
  cases skipLead e c <;> rfl

theorem skipRest_cons (fuel : Nat) (e : Enclosure) (within : List Enclosure) (afterValue : Bool)
    (c : Cursor) :
    skipRest (fuel + 1) (e :: within) afterValue c =
      match c.skipSpace.peek? with
      | none => c.skipSpace.failAhead e.atEnd
      | some b =>
        if b = byte ',' && afterValue then enter fuel e within c.skipSpace.advance
        else if b = e.close then skipRest fuel within true c.skipSpace.advance
        else if afterValue then c.skipSpace.failAhead e.unended
        else enter fuel e within c.skipSpace := by
  rw [skipRest.eq_def]
  cases e <;> rfl

/-- Pass over what follows a value that is no brackets. -/
def leave (fuel : Nat) (within : List Enclosure) (skipped : Except ReadError Cursor) :
    Except ReadError Cursor :=
  match skipped with
  | .error e => .error e
  | .ok c => skipRest fuel within true c

theorem leave_eq_bind (fuel : Nat) (within : List Enclosure)
    (skipped : Except ReadError Cursor) :
    leave fuel within skipped = skipped.bind (skipRest fuel within true) := by
  cases skipped <;> rfl

theorem skipValue_succ (fuel : Nat) (within : List Enclosure) (c : Cursor) :
    skipValue (fuel + 1) within c =
      match c.skipSpace.peek? with
      | none => c.skipSpace.failAhead .endInValue
      | some b =>
        if b = byte '[' then skipRest fuel (.list :: within) false c.skipSpace.advance
        else if b = byte '{' then skipRest fuel (.object :: within) false c.skipSpace.advance
        else leave fuel within (skipScalar b c.skipSpace) := by
  rw [skipValue]
  cases c.skipSpace.peek? with
  | none => rfl
  | some b =>
    by_cases hlist : b = byte '['
    · subst hlist
      rfl
    · by_cases hobject : b = byte '{'
      · subst hobject
        rfl
      · simp only [hlist, hobject, if_false, skipScalar, apply_ite (leave fuel within)]
        rfl

/-! ## What is passed over is a value -/

/-- Blanks before a lead belong to the lead, or to the blanks after an empty one. -/
theorem exists_lead_append {b : Bracket} {lead ws ws' : List UInt8} (hws : Blank ws)
    (hlead : Lead b lead) (hws' : Blank ws') :
    ∃ lead' ws'', Lead b lead' ∧ Blank ws'' ∧ lead' ++ ws'' = ws ++ (lead ++ ws') := by
  cases hlead with
  | item => exact ⟨[], ws ++ ws', .item, blank_append hws hws', rfl⟩
  | member hraw hkey =>
    obtain ⟨hbefore, hbetween⟩ := hkey
    refine ⟨_, ws', .member hraw (.mk (blank_append hws hbefore) hbetween), hws', ?_⟩
    simp only [List.append_assoc, List.cons_append]

/-- What the two functions pass over with a given bound is what they should pass over. -/
structure PassesValues (fuel : Nat) : Prop where
  value : ∀ {within : List Enclosure} {c c' : Cursor}, skipValue fuel within c = .ok c' →
    ∃ ws v t, Blank ws ∧ IsValue v ∧ Leaves within t ∧ c.Spans (ws ++ (v ++ t)) c'
  rest : ∀ {within : List Enclosure} {c c' : Cursor}, skipRest fuel within true c = .ok c' →
    ∃ t, Leaves within t ∧ c.Spans t c'
  opened : ∀ {e : Enclosure} {within : List Enclosure} {c c' : Cursor},
    skipRest fuel (e :: within) false c = .ok c' →
    ∃ bs t, IsValue (e.bracket.opening :: bs) ∧ Leaves within t ∧ c.Spans (bs ++ t) c'

namespace PassesValues

variable {fuel : Nat} {e : Enclosure} {within : List Enclosure}

theorem zero : PassesValues 0 where
  value h := by
    rw [skipValue] at h
    cases h
  rest h := by
    rw [skipRest] at h
    cases h
  opened h := by
    rw [skipRest] at h
    cases h

theorem enter (ih : PassesValues fuel) (h : Acknowledgement.enter fuel e within c = .ok c') :
    ∃ lead ws v rest t, Lead e.bracket lead ∧ Blank ws ∧ IsValue v ∧
      Derives (.rest e.bracket) rest ∧ Leaves within t ∧
      c.Spans (lead ++ (ws ++ (v ++ (rest ++ t)))) c' := by
  rw [enter_eq_bind, bind_eq_ok_iff] at h
  obtain ⟨c₁, hlead, hvalue⟩ := h
  obtain ⟨lead, hlead, hspans⟩ := lead_of_skip hlead
  obtain ⟨ws, v, t, hws, hv, ht, hspans'⟩ := ih.value hvalue
  cases ht with
  | cons hrest ht => exact ⟨lead, ws, v, _, _, hlead, hws, hv, hrest, ht, hspans.trans hspans'⟩

theorem closed (ih : PassesValues fuel) (hb : b = e.close) (hpeek : c.peek? = some b)
    (h : skipRest fuel within true c.advance = .ok c') :
    ∃ t, Leaves within t ∧ c.Spans ([e.bracket.closing] ++ t) c' := by
  obtain ⟨t, ht, hspans⟩ := ih.rest h
  rw [hb, e.close_eq] at hpeek
  exact ⟨t, ht, .cons hpeek hspans⟩

theorem value_succ (ih : PassesValues fuel) (h : skipValue (fuel + 1) within c = .ok c') :
    ∃ ws v t, Blank ws ∧ IsValue v ∧ Leaves within t ∧ c.Spans (ws ++ (v ++ t)) c' := by
  obtain ⟨ws, hws, hspans⟩ := spans_skipSpace c
  rw [skipValue_succ] at h
  split at h
  · cases h
  · next b hb =>
    split at h
    · next hlist =>
      obtain ⟨bs, t, hv, ht, hspans'⟩ := ih.opened h
      have hbracket := hb.trans (congrArg some hlist)
      exact ⟨ws, _, t, hws, hv, ht, hspans.trans (.cons hbracket hspans')⟩
    · split at h
      · next hobject =>
        obtain ⟨bs, t, hv, ht, hspans'⟩ := ih.opened h
        have hbrace := hb.trans (congrArg some hobject)
        exact ⟨ws, _, t, hws, hv, ht, hspans.trans (.cons hbrace hspans')⟩
      · rw [leave_eq_bind, bind_eq_ok_iff] at h
        obtain ⟨c₁, hscalar, hrest⟩ := h
        obtain ⟨v, hv, hspans'⟩ := scalar_of_skip hb hscalar
        obtain ⟨t, ht, hspans''⟩ := ih.rest hrest
        exact ⟨ws, v, t, hws, .scalar hv, ht, hspans.trans (hspans'.trans hspans'')⟩

theorem rest_succ (ih : PassesValues fuel) (h : skipRest (fuel + 1) within true c = .ok c') :
    ∃ t, Leaves within t ∧ c.Spans t c' := by
  cases within with
  | nil =>
    rw [skipRest] at h
    cases h
    exact ⟨[], .nil, .refl _⟩
  | cons e within =>
    obtain ⟨before, hbefore, hspans⟩ := spans_skipSpace c
    rw [skipRest_cons] at h
    split at h
    · cases h
    · next b hb =>
      split at h
      · next hcomma =>
        simp only [Bool.and_true, decide_eq_true_eq] at hcomma
        obtain ⟨lead, ws, v, rest, t, hlead, hws, hv, hrest, ht, hspans'⟩ := ih.enter h
        refine ⟨_, .cons (.next hbefore hlead hws hv hrest) ht, ?_⟩
        simp only [List.append_assoc, List.cons_append]
        exact hspans.trans (.cons (hcomma ▸ hb) hspans')
      · split at h
        · next hclose =>
          obtain ⟨t, ht, hspans'⟩ := ih.closed hclose hb h
          refine ⟨_, .cons (.close hbefore) ht, ?_⟩
          rw [List.append_assoc]
          exact hspans.trans hspans'
        · cases h

theorem opened_succ (ih : PassesValues fuel)
    (h : skipRest (fuel + 1) (e :: within) false c = .ok c') :
    ∃ bs t, IsValue (e.bracket.opening :: bs) ∧ Leaves within t ∧ c.Spans (bs ++ t) c' := by
  obtain ⟨before, hbefore, hspans⟩ := spans_skipSpace c
  rw [skipRest_cons] at h
  split at h
  · cases h
  · next b hb =>
    simp only [Bool.and_false, Bool.false_eq_true, if_false] at h
    split at h
    · next hclose =>
      obtain ⟨t, ht, hspans'⟩ := ih.closed hclose hb h
      refine ⟨_, t, .empty hbefore, ht, ?_⟩
      rw [List.append_assoc]
      exact hspans.trans hspans'
    · obtain ⟨lead, ws, v, rest, t, hlead, hws, hv, hrest, ht, hspans'⟩ := ih.enter h
      -- the blanks were passed over before it was clear that a value follows
      obtain ⟨lead', ws', hlead', hws', heq⟩ := exists_lead_append hbefore hlead hws
      refine ⟨_, t, .filled hlead' hws' hv hrest, ht, ?_⟩
      have hsplit : before ++ (lead ++ (ws ++ (v ++ (rest ++ t)))) =
          (lead' ++ (ws' ++ (v ++ rest))) ++ t := by
        simp only [← List.append_assoc, heq]
      rw [← hsplit]
      exact hspans.trans hspans'

end PassesValues

theorem passesValues (fuel : Nat) : PassesValues fuel := by
  induction fuel with
  | zero => exact .zero
  | succ fuel ih =>
    exact { value := ih.value_succ, rest := ih.rest_succ, opened := ih.opened_succ }

/-- What is passed over is a value, after blanks. -/
theorem value_of_skip (h : skip c = .ok c') :
    ∃ ws v, Blank ws ∧ IsValue v ∧ c.Spans (ws ++ v) c' := by
  obtain ⟨ws, v, t, hws, hv, ht, hspans⟩ := (passesValues _).value h
  cases ht
  rw [List.append_nil] at hspans
  exact ⟨ws, v, hws, hv, hspans⟩

/-! ## Every value is passed over -/

theorem exists_bracket_eq (b : Bracket) : ∃ e : Enclosure, e.bracket = b := by
  cases b with
  | square => exact ⟨.list, rfl⟩
  | curly => exact ⟨.object, rfl⟩

theorem head_of_value {v : List UInt8} (h : IsValue v) : ∃ b bs, v = b :: bs ∧ Opens b := by
  have hopening (b : Bracket) : Opens b.opening := by
    cases b <;> exact ⟨by decide, by decide⟩
  cases h with
  | scalar hv =>
    obtain ⟨b, bs, rfl, hb, _, _⟩ := head_of_scalar hv
    exact ⟨b, bs, rfl, hb⟩
  | empty => exact ⟨_, _, rfl, hopening _⟩
  | filled => exact ⟨_, _, rfl, hopening _⟩

theorem ends_append {ws : List UInt8} (hws : Blank ws) (htail : Ends tail) : Ends (ws ++ tail) := by
  cases ws with
  | nil => exact htail
  | cons b ws =>
    have hb : b = byte ' ' ∨ b = byte '\n' ∨ b = byte '\t' ∨ b = byte '\r' := by
      simpa [ascii] using hws b List.mem_cons_self
    rcases hb with rfl | rfl | rfl | rfl
    all_goals exact .cons (by decide) _

/-- No number goes on behind a value in brackets. -/
theorem ends_rest {b : Bracket} {rest : List UInt8} (h : Derives (.rest b) rest) :
    Ends (rest ++ tail) := by
  cases h with
  | close hws =>
    rw [List.append_assoc]
    refine ends_append hws (.cons ?_ _)
    cases b <;> decide
  | next hbefore _ _ _ _ =>
    rw [List.append_assoc]
    exact ends_append hbefore (.cons (by decide) _)

/-- A part of the grammar is passed over, wherever it stands, in two steps a byte at most. -/
def Passed : Part → List UInt8 → Prop
  | .value, v => ∀ (fuel : Nat) (within : List Enclosure) {c : Cursor} {ws tail : List UInt8},
    Blank ws → Ends tail → c.rest = ws ++ (v ++ tail) → 2 * v.length ≤ fuel →
    ∃ fuel' c', skipValue fuel within c = skipRest fuel' within true c' ∧ c'.rest = tail ∧
      fuel + 1 ≤ fuel' + 2 * v.length
  | .rest b, r => ∀ {e : Enclosure} (fuel : Nat) (within : List Enclosure) {c : Cursor}
    {tail : List UInt8}, e.bracket = b → c.rest = r ++ tail → 2 * r.length ≤ fuel →
    ∃ fuel' c', skipRest fuel (e :: within) true c = skipRest fuel' within true c' ∧
      c'.rest = tail ∧ fuel + 1 ≤ fuel' + 2 * r.length

namespace Passed

variable {lead ws v rest before : List UInt8}

theorem stops_value (h : IsValue v) (tail : List UInt8) : Stops isSpace (v ++ tail) := by
  obtain ⟨b, bs, rfl, hb⟩ := head_of_value h
  exact .cons hb.notSpace _

theorem scalar (h : Scalar v) : Passed .value v := by
  intro fuel within c ws tail hws htail hc hfuel
  obtain ⟨a, bs, hv, _, hlist, hobject⟩ := head_of_scalar h
  -- the byte that is looked at is the first of the scalar, which opens no brackets
  have hspace := rest_skipSpace_of_blank hws (stops_value (.scalar h) tail) hc
  obtain ⟨b, c', hpeek, hskip, hrest⟩ := skip_of_scalar h htail hspace
  have hb : b = a := by
    rw [hv, List.cons_append] at hspace
    exact Option.some.inj (hpeek.symm.trans (peek?_of_rest hspace))
  have hlength : 0 < v.length := by
    rw [hv]
    exact Nat.succ_pos _
  obtain ⟨k, rfl⟩ : ∃ k, fuel = k + 1 := ⟨fuel - 1, by omega⟩
  refine ⟨k, c', ?_, hrest, by omega⟩
  rw [skipValue_succ, hpeek]
  simp only [hb, hlist, hobject, if_false]
  rw [← hb, hskip, leave]

/-- What follows a lead is passed over as a value and the rest of the brackets. -/
theorem enter {e : Enclosure} (fuel : Nat) (within : List Enclosure)
    (hlead : Lead e.bracket lead) (hws : Blank ws) (hrest : Derives (.rest e.bracket) rest)
    (ihv : Passed .value v) (ihrest : Passed (.rest e.bracket) rest)
    (hc : c.rest = lead ++ (ws ++ (v ++ (rest ++ tail))))
    (hfuel : 2 * v.length + 2 * rest.length ≤ fuel) :
    ∃ fuel' c', Acknowledgement.enter fuel e within c = skipRest fuel' within true c' ∧
      c'.rest = tail ∧ fuel + 2 ≤ fuel' + 2 * v.length + 2 * rest.length := by
  obtain ⟨c₁, hskip, hc₁⟩ := skip_of_lead hlead hc
  obtain ⟨fuel₁, c₂, hvalue, hc₂, hfuel₁⟩ :=
    ihv fuel (e :: within) hws (ends_rest hrest) hc₁ (by omega)
  obtain ⟨fuel', c', hleft, hc', hfuel'⟩ :=
    ihrest fuel₁ within rfl hc₂ (by omega)
  refine ⟨fuel', c', ?_, hc', by omega⟩
  rw [Acknowledgement.enter, hskip]
  exact hvalue.trans hleft

/-- The closing bracket is passed over, also before any value. -/
theorem close {e : Enclosure} (fuel : Nat) (within : List Enclosure) (afterValue : Bool)
    (hws : Blank ws) (hc : c.rest = ws ++ e.bracket.closing :: tail) :
    ∃ c', skipRest (fuel + 1) (e :: within) afterValue c = skipRest fuel within true c' ∧
      c'.rest = tail := by
  have hspace : isSpace e.bracket.closing = false := by cases e <;> decide
  have hcomma : e.bracket.closing ≠ byte ',' := by cases e <;> decide
  have hc₁ := rest_skipSpace_of_blank hws (.cons hspace tail) hc
  refine ⟨_, ?_, rest_advance_of_rest hc₁⟩
  rw [skipRest_cons, peek?_of_rest hc₁, e.close_eq]
  simp [hcomma]

/-- An opening bracket is passed over. -/
theorem opening {e : Enclosure} (fuel : Nat) (within : List Enclosure) {bs : List UInt8}
    (hws : Blank ws) (hc : c.rest = ws ++ (e.bracket.opening :: bs)) :
    ∃ c', skipValue (fuel + 1) within c = skipRest fuel (e :: within) false c' ∧ c'.rest = bs := by
  have hspace : isSpace e.bracket.opening = false := by cases e <;> decide
  have hc₁ := rest_skipSpace_of_blank hws (.cons hspace bs) hc
  refine ⟨_, ?_, rest_advance_of_rest hc₁⟩
  rw [skipValue_succ, peek?_of_rest hc₁]
  cases e <;> rfl

theorem empty {b : Bracket} (hws : Blank ws) :
    Passed .value (b.opening :: (ws ++ [b.closing])) := by
  intro fuel within c ws' tail hws' _ hc hfuel
  obtain ⟨e, rfl⟩ := exists_bracket_eq b
  rw [List.length_cons, List.length_append, List.length_singleton] at hfuel ⊢
  obtain ⟨k, rfl⟩ : ∃ k, fuel = k + 2 := ⟨fuel - 2, by omega⟩
  rw [List.cons_append] at hc
  obtain ⟨c₁, hopen, hc₁⟩ := opening (k + 1) within hws' hc
  rw [List.append_assoc] at hc₁
  obtain ⟨c', hclose, hc'⟩ := close k within false hws hc₁
  exact ⟨k, c', hopen.trans hclose, hc', by omega⟩

/-- Blanks before a lead are passed over with it, and what comes to stand ahead is no closing
bracket and no comma. -/
theorem exists_lead_skipSpace {e : Enclosure} (hlead : Lead e.bracket lead) (hws : Blank ws)
    (hv : IsValue v) (hc : c.rest = lead ++ (ws ++ (v ++ tail))) :
    ∃ b lead' ws', Lead e.bracket lead' ∧ Blank ws' ∧ c.skipSpace.peek? = some b ∧ b ≠ e.close ∧
      c.skipSpace.rest = lead' ++ (ws' ++ (v ++ tail)) := by
  cases e with
  | list =>
    cases hlead
    obtain ⟨b, bs, rfl, hb⟩ := head_of_value hv
    have hc₁ := rest_skipSpace_of_blank hws (.cons hb.notSpace (bs ++ tail)) hc
    exact ⟨b, [], [], .item, blank_nil, peek?_of_rest hc₁, hb.notEnd, hc₁⟩
  | object =>
    cases hlead with
    | member hraw hkey =>
      obtain ⟨hbefore, hbetween⟩ := hkey
      rw [List.append_assoc] at hc
      have hc₁ := rest_skipSpace_of_blank hbefore (.cons (by decide) _) hc
      exact ⟨byte '"', _, ws, .member hraw (.mk blank_nil hbetween), hws, peek?_of_rest hc₁,
        by decide, hc₁⟩

theorem filled {b : Bracket} (hlead : Lead b lead) (hws : Blank ws) (hv : IsValue v)
    (hrest : Derives (.rest b) rest) (ihv : Passed .value v) (ihrest : Passed (.rest b) rest) :
    Passed .value (b.opening :: (lead ++ (ws ++ (v ++ rest)))) := by
  intro fuel within c ws' tail hws' _ hc hfuel
  obtain ⟨e, rfl⟩ := exists_bracket_eq b
  simp only [List.length_cons, List.length_append] at hfuel ⊢
  obtain ⟨k, rfl⟩ : ∃ k, fuel = k + 2 := ⟨fuel - 2, by omega⟩
  simp only [List.cons_append, List.append_assoc] at hc
  obtain ⟨c₁, hopen, hc₁⟩ := opening (k + 1) within hws' hc
  obtain ⟨b, lead', ws'', hlead', hws'', hpeek, hclose, hc₂⟩ :=
    exists_lead_skipSpace hlead hws hv hc₁
  obtain ⟨fuel', c', henter, hc', hfuel'⟩ :=
    enter k within hlead' hws'' hrest ihv ihrest hc₂ (by omega)
  refine ⟨fuel', c', ?_, hc', by omega⟩
  rw [hopen, skipRest_cons, hpeek, ← henter]
  simp [hclose]

theorem next {b : Bracket} (hbefore : Blank before) (hlead : Lead b lead) (hws : Blank ws)
    (hrest : Derives (.rest b) rest) (ihv : Passed .value v) (ihrest : Passed (.rest b) rest) :
    Passed (.rest b) (before ++ byte ',' :: (lead ++ (ws ++ (v ++ rest)))) := by
  rintro e fuel within c tail rfl hc hfuel
  simp only [List.length_cons, List.length_append] at hfuel ⊢
  obtain ⟨k, rfl⟩ : ∃ k, fuel = k + 1 := ⟨fuel - 1, by omega⟩
  simp only [List.append_assoc, List.cons_append] at hc
  have hc₁ := rest_skipSpace_of_blank hbefore (.cons (by decide) _) hc
  obtain ⟨fuel', c', henter, hc', hfuel'⟩ := enter k within hlead hws hrest
    ihv ihrest (rest_advance_of_rest hc₁) (by omega)
  refine ⟨fuel', c', ?_, hc', by omega⟩
  rw [skipRest_cons, peek?_of_rest hc₁, ← henter]
  simp

end Passed

theorem passed_of_derives {p : Part} (h : Derives p bs) : Passed p bs := by
  induction h with
  | scalar hv => exact Passed.scalar hv
  | empty hws => exact Passed.empty hws
  | filled hlead hws hv hrest ihv ihrest => exact Passed.filled hlead hws hv hrest ihv ihrest
  | close hws =>
    rintro e fuel within c tail rfl hc hfuel
    rw [List.length_append, List.length_singleton] at hfuel ⊢
    rw [List.append_assoc] at hc
    obtain ⟨k, rfl⟩ : ∃ k, fuel = k + 1 := ⟨fuel - 1, by omega⟩
    obtain ⟨c', hclose, hc'⟩ := Passed.close k within true hws hc
    exact ⟨k, c', hclose, hc', by omega⟩
  | next hbefore hlead hws _ hrest ihv ihrest =>
    exact Passed.next hbefore hlead hws hrest ihv ihrest

/-- Every value is passed over, with the blanks before it. -/
theorem skip_of_value {ws v : List UInt8} (hws : Blank ws) (hv : IsValue v) (htail : Ends tail)
    (hc : c.rest = ws ++ (v ++ tail)) : ∃ c', skip c = .ok c' ∧ c'.rest = tail := by
  have hlength : v.length ≤ c.rest.length := by
    rw [hc]
    simp only [List.length_append]
    omega
  have hfuel : 2 * v.length ≤ stepBound c + 1 := by
    rw [stepBound]
    omega
  obtain ⟨fuel', c', hskip, hc', hleft⟩ := passed_of_derives hv _ [] hws htail hc hfuel
  obtain ⟨k, rfl⟩ : ∃ k, fuel' = k + 1 := ⟨fuel' - 1, by rw [stepBound] at hleft; omega⟩
  refine ⟨c', ?_, hc'⟩
  rw [skip, hskip, skipRest]

end IndexKeeper.Acknowledgement
