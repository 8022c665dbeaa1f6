import IndexKeeper.Proofs.Remote.Passing

/-!
# Which bodies acknowledge

What a body says about a change, told by its bytes and without the reader: an object whose field
`acknowledged` is the word of a truth value, false where no member names the field, or an array that
stands for it (`Says`).  The other members may have any value of the grammar, while their keys have
to be texts.  `read_eq_ok_iff` is that the reader answers what a body says, and
`exists_read_eq_error_iff` that every other body is an error; so a body is never read as a
confirmation unless the word `true` stands in it for the field.
-/

namespace IndexKeeper.Acknowledgement

open Json Cursor

variable {c c' : Cursor} {b : Bool} {bytes tail ws : List UInt8} {first : Bool}

/-! ## What a body says -/

/-- The word of a truth value. -/
def word (b : Bool) : List UInt8 := ascii (if b then "true" else "false")

/-- The members of an object up to and with its closing brace, all of them or those behind others:
the texts of their keys and the bytes of their values. -/
inductive Members : Bool → List (String × List UInt8) → List UInt8 → Prop
  | close {first : Bool} {ws : List UInt8} (h : Blank ws) : Members first [] (ws ++ [byte '}'])
  | member {first : Bool} {sep raw key ws v rest : List UInt8} {name : String}
    {ms : List (String × List UInt8)} (hsep : Separator first sep)
    (hraw : Unescapes raw (Utf8.encode name)) (hkey : KeyPart raw key) (hws : Blank ws)
    (hv : IsValue v) (hrest : Members false ms rest) :
    Members first ((name, v) :: ms) (sep ++ (key ++ (ws ++ (v ++ rest))))

/-- The values that members give the field. -/
def fieldValues (ms : List (String × List UInt8)) : List (List UInt8) :=
  (ms.filter fun m => m.1 = "acknowledged").map Prod.snd

/-- What the values given for the field say.  There is one at most. -/
inductive Stated : List (List UInt8) → Bool → Prop
  | absent : Stated [] false
  | present (b : Bool) : Stated [word b] b

/-- What a record says, written as an object or as an array. -/
inductive Record : Bool → List UInt8 → Prop
  | object {ms : List (String × List UInt8)} {bytes : List UInt8} {b : Bool}
    (hms : Members true ms bytes) (hb : Stated (fieldValues ms) b) : Record b (byte '{' :: bytes)
  | emptyArray {ws : List UInt8} (h : Blank ws) : Record false (byte '[' :: (ws ++ [byte ']']))
  | array {ws ws' : List UInt8} {b : Bool} (h : Blank ws) (h' : Blank ws') :
    Record b (byte '[' :: (ws ++ (word b ++ (ws' ++ [byte ']']))))

/-- What a body says: its record, with blanks around it. -/
inductive Says : Bool → List UInt8 → Prop
  | mk {b : Bool} {before record after : List UInt8} (hbefore : Blank before)
    (h : Record b record) (hafter : Blank after) : Says b (before ++ (record ++ after))

@[simp] theorem fieldValues_nil : fieldValues [] = [] := rfl

theorem fieldValues_cons_self (v : List UInt8) (ms : List (String × List UInt8)) :
    fieldValues ((field, v) :: ms) = v :: fieldValues ms := rfl

theorem fieldValues_cons_of_ne {name : String} (h : name ≠ field) (v : List UInt8)
    (ms : List (String × List UInt8)) : fieldValues ((name, v) :: ms) = fieldValues ms := by
  rw [fieldValues, List.filter_cons_of_neg (by simpa [field] using h), fieldValues]

theorem isValue_word (b : Bool) : IsValue (word b) := by
  cases b with
  | false => exact .scalar (.word (w := "false") (by decide))
  | true => exact .scalar (.word (w := "true") (by decide))

/-! ## Truth values -/

/-- A value of another type is refused, whatever it is. -/
theorem refuse_ne_ok {α : Type} (expected : String) (c : Cursor) (r : α) :
    refuse expected c ≠ .ok r := by
  intro h
  rw [refuse] at h
  repeat' split at h
  all_goals first
    | cases h
    | obtain ⟨_, _, h⟩ := bind_eq_ok_iff.mp h
      cases h

theorem word_of_readBool (h : readBool c = .ok (b, c')) :
    ∃ ws, Blank ws ∧ c.Spans (ws ++ word b) c' := by
  obtain ⟨ws, hws, hspans⟩ := spans_skipSpace c
  rw [readBool] at h
  split at h
  · cases h
  · next a ha =>
    split at h
    · next ht =>
      obtain ⟨⟨_, c₁⟩, hread, heq⟩ := map_eq_ok_iff.mp h
      cases heq
      exact ⟨ws, hws, hspans.trans (.cons (ht ▸ ha) (spans_of_readWord hread))⟩
    · split at h
      · next hf =>
        obtain ⟨⟨_, c₁⟩, hread, heq⟩ := map_eq_ok_iff.mp h
        cases heq
        exact ⟨ws, hws, hspans.trans (.cons (hf ▸ ha) (spans_of_readWord hread))⟩
      · exact absurd h (refuse_ne_ok _ _ _)

theorem readBool_of_word (hws : Blank ws) (hc : c.rest = ws ++ (word b ++ tail)) :
    ∃ c', readBool c = .ok (b, c') ∧ c'.rest = tail := by
  cases b with
  | true =>
    have hspace := rest_skipSpace_of_blank hws (.cons (by decide) _) hc
    obtain ⟨c', hread, hrest⟩ := readWord_map "rue".toList (rest_advance_of_rest hspace)
    refine ⟨c', ?_, hrest⟩
    rw [readBool, peek?_of_rest hspace, hread]
    rfl
  | false =>
    have hspace := rest_skipSpace_of_blank hws (.cons (by decide) _) hc
    obtain ⟨c', hread, hrest⟩ := readWord_map "alse".toList (rest_advance_of_rest hspace)
    refine ⟨c', ?_, hrest⟩
    rw [readBool, peek?_of_rest hspace, hread]
    rfl

/-! ## Members -/

/-- The key of a member that is read, with what stands before it. -/
theorem key_of_reads {c₁ c₂ : Cursor} {name : String}
    (hstart : readMemberStart first c = .ok (true, c₁))
    (htext : readText c₁.advance = .ok (name, c₂)) (hcolon : readColon c₂ = .ok c') :
    ∃ sep raw key, Separator first sep ∧ Unescapes raw (Utf8.encode name) ∧ KeyPart raw key ∧
      c.Spans (sep ++ key) c' := by
  obtain ⟨sep, ws, hsep, hws, hspans⟩ := quote_of_readMemberStart hstart
  obtain ⟨raw, hraw, hspans₁⟩ := spells_of_readText htext
  obtain ⟨ws', hws', hspans₂⟩ := colon_of_readColon hcolon
  refine ⟨sep, raw, _, hsep, hraw, .mk hws hws', ?_⟩
  have hall := hspans.trans (hspans₁.trans hspans₂)
  simp only [List.append_assoc, List.cons_append, List.nil_append] at hall ⊢
  exact hall

theorem reads_of_key {sep raw key : List UInt8} {name : String} (hsep : Separator first sep)
    (hraw : Unescapes raw (Utf8.encode name)) (hkey : KeyPart raw key)
    (hc : c.rest = sep ++ (key ++ tail)) :
    ∃ c₁ c₂ c', readMemberStart first c = .ok (true, c₁) ∧
      readText c₁.advance = .ok (name, c₂) ∧ readColon c₂ = .ok c' ∧ c'.rest = tail := by
  obtain ⟨hbefore, hbetween⟩ := hkey
  simp only [List.append_assoc, List.cons_append, List.nil_append] at hc
  obtain ⟨c₁, hstart, hquote⟩ := readMemberStart_of_separator hsep hbefore hc
  obtain ⟨c₂, htext, hrest₂⟩ := readText_of_spells hraw (rest_advance_of_rest hquote)
  obtain ⟨c', hcolon, hrest⟩ := readColon_of_blank hbetween hrest₂
  exact ⟨c₁, c₂, c', hstart, htext, hcolon, hrest⟩

/-- A member that is read, with the members that are read behind it. -/
theorem members_of_reads {c₁ c₂ c₃ c₄ : Cursor} {name : String} {v rest : List UInt8}
    {ms : List (String × List UInt8)} (hstart : readMemberStart first c = .ok (true, c₁))
    (htext : readText c₁.advance = .ok (name, c₂)) (hcolon : readColon c₂ = .ok c₃)
    (hws : Blank ws) (hv : IsValue v) (hvalue : c₃.Spans (ws ++ v) c₄)
    (hms : Members false ms rest) (hrest : c₄.Spans rest c') :
    ∃ bytes, Members first ((name, v) :: ms) bytes ∧ c.Spans bytes c' := by
  obtain ⟨sep, raw, key, hsep, hraw, hkey, hspans⟩ := key_of_reads hstart htext hcolon
  refine ⟨_, .member hsep hraw hkey hws hv hms, ?_⟩
  have hall := hspans.trans (hvalue.trans hrest)
  simp only [List.append_assoc] at hall
  exact hall

theorem stated_getD (value : Option Bool) :
    Stated (value.toList.map word) (value.getD false) := by
  cases value with
  | none => exact .absent
  | some b => exact .present b

/-- The members that are read, and that what they come to is what is stated of the field, by them
and by the members before. -/
theorem members_of_read {fuel : Nat} {value : Option Bool}
    (h : readMembers fuel first value c = .ok (b, c')) :
    ∃ ms bytes, Members first ms bytes ∧ Stated (value.toList.map word ++ fieldValues ms) b ∧
      c.Spans bytes c' := by
  induction fuel generalizing first value c with
  | zero =>
    rw [readMembers] at h
    cases h
  | succ fuel ih =>
    rw [readMembers] at h
    split at h
    · cases h
    · next c₁ hstart =>
      cases h
      obtain ⟨ws, hws, hspans⟩ := close_of_readMemberStart hstart
      refine ⟨[], _, .close hws, ?_, hspans⟩
      rw [fieldValues_nil, List.append_nil]
      exact stated_getD value
    · next c₁ hstart =>
      split at h
      · cases h
      · next name c₂ htext =>
        split at h
        · next hname =>
          subst hname
          split at h
          · cases h
          · next hnone =>
            -- no member before named the field, so this value is the one that is stated
            split at h
            · cases h
            · next c₃ hcolon =>
              split at h
              · cases h
              · next a c₄ hbool =>
                obtain ⟨ws, hws, hvalue⟩ := word_of_readBool hbool
                obtain ⟨ms, rest, hms, hstated, hrest⟩ := ih h
                obtain ⟨bytes, hmembers, hspans⟩ := members_of_reads hstart htext hcolon hws
                  (isValue_word a) hvalue hms hrest
                refine ⟨_, bytes, hmembers, ?_, hspans⟩
                rw [fieldValues_cons_self, Option.not_isSome_iff_eq_none.mp hnone]
                exact hstated
        · next hname =>
          split at h
          · cases h
          · next c₃ hcolon =>
            split at h
            · cases h
            · next c₄ hskip =>
              obtain ⟨ws, v, hws, hv, hvalue⟩ := value_of_skip hskip
              obtain ⟨ms, rest, hms, hstated, hrest⟩ := ih h
              obtain ⟨bytes, hmembers, hspans⟩ :=
                members_of_reads hstart htext hcolon hws hv hvalue hms hrest
              refine ⟨_, bytes, hmembers, ?_, hspans⟩
              rw [fieldValues_cons_of_ne hname]
              exact hstated

theorem ends_members {ms : List (String × List UInt8)} (h : Members false ms bytes) :
    Ends (bytes ++ tail) := by
  cases h with
  | close hws =>
    rw [List.append_assoc]
    exact ends_append hws (.cons (by decide) _)
  | member hsep =>
    cases hsep with
    | comma hws =>
      simp only [List.append_assoc]
      exact ends_append hws (.cons (by decide) _)

theorem word_injective : Function.Injective word := by
  intro a b h
  have hne : word true ≠ word false := by decide
  cases a <;> cases b
  · rfl
  · exact absurd h.symm hne
  · exact absurd h hne
  · rfl

theorem Stated.eq_or {values : List (List UInt8)} (h : Stated values b) :
    (values = [] ∧ b = false) ∨ values = [word b] := by
  cases h with
  | absent => exact .inl ⟨rfl, rfl⟩
  | present => exact .inr rfl

/-- A field that has a value has no other one. -/
theorem eq_none_of_stated {value : Option Bool} {v : List UInt8} {vs : List (List UInt8)}
    (h : Stated (value.toList.map word ++ v :: vs) b) : value = none ∧ v = word b ∧ vs = [] := by
  rcases h.eq_or with ⟨hnil, _⟩ | hone
  · exact absurd (List.append_eq_nil_iff.mp hnil).2 (List.cons_ne_nil v vs)
  · cases value with
    | none =>
      obtain ⟨hv, hvs⟩ := List.cons.inj hone
      exact ⟨rfl, hv, hvs⟩
    | some a => exact absurd (List.cons.inj hone).2 (List.cons_ne_nil v vs)

theorem getD_of_stated {value : Option Bool} (h : Stated (value.toList.map word) b) :
    value.getD false = b := by
  cases value with
  | none =>
    rcases h.eq_or with ⟨_, hb⟩ | hone
    · exact hb.symm
    · exact absurd hone.symm (List.cons_ne_nil _ _)
  | some a =>
    rcases h.eq_or with ⟨hnil, _⟩ | hone
    · exact absurd hnil (List.cons_ne_nil _ _)
    · exact word_injective (List.cons.inj hone).1

/-- All members are read, whatever follows the closing brace. -/
theorem read_of_members {ms : List (String × List UInt8)} (h : Members first ms bytes)
    {fuel : Nat} (value : Option Bool) (hfuel : bytes.length ≤ fuel)
    (hb : Stated (value.toList.map word ++ fieldValues ms) b) (hc : c.rest = bytes ++ tail) :
    ∃ c', readMembers fuel first value c = .ok (b, c') ∧ c'.rest = tail := by
  induction h generalizing fuel value c with
  | close hws =>
    rw [List.length_append, List.length_singleton] at hfuel
    obtain ⟨k, rfl⟩ : ∃ k, fuel = k + 1 := ⟨fuel - 1, by omega⟩
    rw [fieldValues_nil, List.append_nil] at hb
    rw [List.append_assoc] at hc
    have hspace := rest_skipSpace_of_blank hws (.cons (by decide) tail) hc
    refine ⟨_, ?_, rest_advance_of_rest hspace⟩
    rw [readMembers, readMemberStart, peek?_of_rest hspace]
    simp only [if_true, getD_of_stated hb]
  | @member first sep raw key ws v rest name ms hsep hraw hkey hws hv hrest ih =>
    simp only [List.append_assoc] at hc
    obtain ⟨c₁, c₂, c₃, hstart, htext, hcolon, hc₃⟩ := reads_of_key hsep hraw hkey hc
    -- a key has quotes, so there are fewer bytes left than steps
    have hkeyLength : 0 < key.length := by
      obtain ⟨hbefore, hbetween⟩ := hkey
      simp only [List.length_append, List.length_cons]
      omega
    simp only [List.length_append] at hfuel
    obtain ⟨k, rfl⟩ : ∃ k, fuel = k + 1 := ⟨fuel - 1, by omega⟩
    have hleft : rest.length ≤ k := by omega
    rw [readMembers, hstart]
    simp only [htext, hcolon]
    by_cases hname : name = field
    · subst hname
      rw [fieldValues_cons_self] at hb
      obtain ⟨rfl, rfl, hvalues⟩ := eq_none_of_stated hb
      obtain ⟨c₄, hbool, hc₄⟩ := readBool_of_word hws hc₃
      have hstated : Stated ((some b).toList.map word ++ fieldValues ms) b := by
        rw [hvalues]
        exact .present b
      obtain ⟨c', hread, hc'⟩ := ih _ hleft hstated hc₄
      refine ⟨c', ?_, hc'⟩
      simp only [if_true, Option.isSome_none, Bool.false_eq_true, if_false, hbool, hread]
    · rw [fieldValues_cons_of_ne hname] at hb
      obtain ⟨c₄, hskip, hc₄⟩ := skip_of_value hws hv (ends_members hrest) hc₃
      obtain ⟨c', hread, hc'⟩ := ih _ hleft hb hc₄
      refine ⟨c', ?_, hc'⟩
      simp only [hname, if_false, hskip, hread]

/-! ## Records written as arrays -/

theorem end_of_readItemsEnd (h : readItemsEnd c = .ok c') :
    ∃ ws, Blank ws ∧ c.Spans (ws ++ [byte ']']) c' := by
  obtain ⟨ws, hws, hspans⟩ := spans_skipSpace c
  rw [readItemsEnd] at h
  split at h
  · cases h
  · next a ha =>
    split at h
    · next hclose =>
      cases h
      exact ⟨ws, hws, hspans.trans (hclose ▸ .advance ha)⟩
    · split at h
      · dsimp only at h
        split at h
        all_goals cases h
      · cases h

theorem readItemsEnd_of_blank (hws : Blank ws) (hc : c.rest = ws ++ byte ']' :: tail) :
    ∃ c', readItemsEnd c = .ok c' ∧ c'.rest = tail := by
  have hspace := rest_skipSpace_of_blank hws (.cons (by decide) tail) hc
  refine ⟨_, ?_, rest_advance_of_rest hspace⟩
  rw [readItemsEnd, peek?_of_rest hspace]
  simp only [if_true]

/-- Before the first item only blanks are passed over. -/
theorem blank_of_readItemStart {more : Bool} (h : readItemStart true c = .ok (more, c')) :
    ∃ ws, Blank ws ∧ c.Spans ws c' := by
  obtain ⟨ws, hws, hspans⟩ := spans_skipSpace c
  rw [readItemStart] at h
  split at h
  · cases h
  · simp only [if_true] at h
    split at h
    all_goals
      cases h
      exact ⟨ws, hws, hspans⟩

theorem array_of_readItems (h : readItems c = .ok (b, c')) :
    ∃ bytes, Record b (byte '[' :: bytes) ∧ c.Spans bytes c' := by
  rw [readItems] at h
  split at h
  · cases h
  · next c₁ hstart =>
    obtain ⟨c₂, hend, heq⟩ := map_eq_ok_iff.mp h
    cases heq
    obtain ⟨ws, hws, hspans⟩ := blank_of_readItemStart hstart
    obtain ⟨ws', hws', hspans'⟩ := end_of_readItemsEnd hend
    refine ⟨_, .emptyArray (blank_append hws hws'), ?_⟩
    rw [List.append_assoc]
    exact hspans.trans hspans'
  · next c₁ hstart =>
    split at h
    · cases h
    · next a c₂ hbool =>
      obtain ⟨c₃, hend, heq⟩ := map_eq_ok_iff.mp h
      cases heq
      obtain ⟨ws, hws, hspans⟩ := blank_of_readItemStart hstart
      obtain ⟨ws', hws', hspans'⟩ := word_of_readBool hbool
      obtain ⟨ws'', hws'', hspans''⟩ := end_of_readItemsEnd hend
      refine ⟨_, .array (blank_append hws hws') hws'', ?_⟩
      have hall := hspans.trans (hspans'.trans hspans'')
      simp only [List.append_assoc] at hall ⊢
      exact hall

theorem readItems_of_blank (hws : Blank ws) (hc : c.rest = ws ++ byte ']' :: tail) :
    ∃ c', readItems c = .ok (false, c') ∧ c'.rest = tail := by
  have hspace := rest_skipSpace_of_blank hws (.cons (by decide) tail) hc
  obtain ⟨c', hend, hc'⟩ := readItemsEnd_of_blank blank_nil hspace
  refine ⟨c', ?_, hc'⟩
  rw [readItems, readItemStart, peek?_of_rest hspace]
  simp only [if_true, hend]
  rfl

theorem readItems_of_word {ws' : List UInt8} (hws : Blank ws) (hws' : Blank ws')
    (hc : c.rest = ws ++ (word b ++ (ws' ++ byte ']' :: tail))) :
    ∃ c', readItems c = .ok (b, c') ∧ c'.rest = tail := by
  obtain ⟨a, rest, hword, ha⟩ := head_of_value (isValue_word b)
  rw [hword] at hc
  have hspace := rest_skipSpace_of_blank hws (.cons ha.notSpace _) hc
  have hword' : c.skipSpace.rest = [] ++ (word b ++ (ws' ++ byte ']' :: tail)) := by
    rw [hword]
    exact hspace
  obtain ⟨c₁, hbool, hc₁⟩ := readBool_of_word blank_nil hword'
  obtain ⟨c', hend, hc'⟩ := readItemsEnd_of_blank hws' hc₁
  refine ⟨c', ?_, hc'⟩
  rw [readItems, readItemStart, peek?_of_rest hspace]
  simp only [ha.notEnd, if_false, if_true, hbool, hend]
  rfl

/-! ## Records and bodies -/

theorem record_of_read (h : readRecord c = .ok (b, c')) :
    ∃ ws record, Blank ws ∧ Record b record ∧ c.Spans (ws ++ record) c' := by
  obtain ⟨ws, hws, hspans⟩ := spans_skipSpace c
  rw [readRecord] at h
  split at h
  · cases h
  · next a ha =>
    split at h
    · next hobject =>
      obtain ⟨ms, bytes, hms, hstated, hspans'⟩ := members_of_read h
      exact ⟨ws, _, hws, .object hms hstated, hspans.trans (.cons (hobject ▸ ha) hspans')⟩
    · split at h
      · next hlist =>
        obtain ⟨bytes, hrecord, hspans'⟩ := array_of_readItems h
        exact ⟨ws, _, hws, hrecord, hspans.trans (.cons (hlist ▸ ha) hspans')⟩
      · exact absurd h (refuse_ne_ok _ _ _)

theorem read_of_record {record : List UInt8} (hws : Blank ws) (h : Record b record)
    (hc : c.rest = ws ++ (record ++ tail)) :
    ∃ c', readRecord c = .ok (b, c') ∧ c'.rest = tail := by
  cases h with
  | @object ms bytes b hms hb =>
    rw [List.cons_append] at hc
    have hspace := rest_skipSpace_of_blank hws (.cons (by decide) _) hc
    have hfuel : bytes.length ≤ c.skipSpace.rest.length + 1 := by
      rw [hspace]
      simp only [List.length_cons, List.length_append]
      omega
    obtain ⟨c', hread, hc'⟩ :=
      read_of_members hms none hfuel hb (rest_advance_of_rest hspace)
    refine ⟨c', ?_, hc'⟩
    rw [readRecord, peek?_of_rest hspace]
    simp only [if_true, hread]
  | emptyArray hblank =>
    rw [List.cons_append, List.append_assoc] at hc
    have hspace := rest_skipSpace_of_blank hws (.cons (by decide) _) hc
    obtain ⟨c', hread, hc'⟩ := readItems_of_blank hblank (rest_advance_of_rest hspace)
    refine ⟨c', ?_, hc'⟩
    rw [readRecord, peek?_of_rest hspace, ← hread]
    rfl
  | array hblank hblank' =>
    simp only [List.cons_append, List.append_assoc] at hc
    have hspace := rest_skipSpace_of_blank hws (.cons (by decide) _) hc
    obtain ⟨c', hread, hc'⟩ := readItems_of_word hblank hblank' (rest_advance_of_rest hspace)
    refine ⟨c', ?_, hc'⟩
    rw [readRecord, peek?_of_rest hspace, ← hread]
    rfl

/-- A body is read as what it says. -/
theorem read_eq_ok_iff : read bytes = .ok b ↔ Says b bytes := by
  constructor
  · intro h
    rw [read] at h
    split at h
    · cases h
    · next a c' hrecord =>
      obtain ⟨⟨⟩, hend, rfl⟩ := map_eq_ok_iff.mp h
      obtain ⟨ws, record, hws, hsays, hspans⟩ := record_of_read hrecord
      have hbytes : bytes = ws ++ (record ++ c'.rest) := by
        rw [← List.append_assoc]
        exact hspans
      rw [hbytes]
      exact .mk hws hsays (readEnd_eq_ok_iff.mp hend)
  · rintro ⟨hbefore, hrecord, hafter⟩
    obtain ⟨c', hread, hc'⟩ := read_of_record hbefore hrecord (c := Cursor.start _) rfl
    rw [read, hread]
    exact map_eq_ok_iff.mpr ⟨(), readEnd_eq_ok_iff.mpr (hc' ▸ hafter), rfl⟩

/-- A body does not say two things. -/
theorem Says.unique {b' : Bool} (h : Says b bytes) (h' : Says b' bytes) : b = b' :=
  Except.ok.inj ((read_eq_ok_iff.mpr h).symm.trans (read_eq_ok_iff.mpr h'))

/-- Reading fails on the bodies that say nothing. -/
theorem exists_read_eq_error_iff : (∃ e, read bytes = .error e) ↔ ∀ b, ¬ Says b bytes := by
  cases hread : read bytes with
  | error e =>
    refine iff_of_true ⟨e, rfl⟩ fun b hsays => ?_
    cases hread.symm.trans (read_eq_ok_iff.mpr hsays)
  | ok b =>
    refine iff_of_false ?_ fun h => h b (read_eq_ok_iff.mp hread)
    rintro ⟨e, he⟩
    cases he

end IndexKeeper.Acknowledgement
