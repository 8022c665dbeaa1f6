import IndexKeeper.Proofs.Json.Legible
import IndexKeeper.Proofs.Keyed

/-!
# Values that are read back

`Readable` lists what the reader takes in with a number of levels left: any texts, numbers that are
legible, and arrays and objects of what is readable one level below.  A readable value is read back
from its text: `ofText_text`.  The induction is on `Readable`; an array or an object is read by a
loop of its own, with a separator in front of all but the first part, so each loop has a lemma about
the rest of a list and about whether its first part is still to come.
-/

namespace IndexKeeper

open Utf8 (ofChars)

namespace Json

open Cursor

/-- What the reader takes in with so many levels of nesting left. -/
inductive Readable : Nat → Json → Prop
  | null (depth : Nat) : Readable depth null
  | bool (depth : Nat) (b : Bool) : Readable depth (bool b)
  | num (depth : Nat) {n : Number} (h : n.Legible) : Readable depth (num n)
  | str (depth : Nat) (s : String) : Readable depth (str s)
  | arr {depth : Nat} {items : List Json} (h : ∀ v ∈ items, Readable depth v) :
    Readable (depth + 1) (arr items)
  | obj {depth : Nat} {ms : List (String × Json)} (hkeys : Keyed.Ordered ms)
    (h : ∀ e ∈ ms, Readable depth e.2) : Readable (depth + 1) (obj ms)

/-! ## The bytes ahead -/

/-- What stands before a part of an array or an object. -/
def separator (first : Bool) : List UInt8 := if first then [] else [byte ',']

/-- The bytes of the items that are still to come. -/
def itemsAhead (first : Bool) : List Json → List UInt8
  | [] => []
  | v :: rest => separator first ++ (ofChars (chars v) ++ itemsAhead false rest)

/-- The bytes of the members that are still to come. -/
def membersAhead (first : Bool) : List (String × Json) → List UInt8
  | [] => []
  | (k, v) :: rest => separator first ++
      (ofChars (quoted k) ++ byte ':' :: (ofChars (chars v) ++ membersAhead false rest))

theorem ofChars_cons_of_ascii {ch : Char} (h : ch.toNat ≤ 0x7F) (cs : List Char) :
    ofChars (ch :: cs) = byte ch :: ofChars cs := by
  rw [ofChars, List.flatMap_cons, utf8EncodeChar_of_ascii h, List.singleton_append]

theorem ofChars_itemChars (items : List Json) :
    ofChars (itemChars items) = itemsAhead true items := by
  induction items with
  | nil => rfl
  | cons v rest ih =>
    cases rest with
    | nil => rw [itemChars, itemsAhead, itemsAhead, List.append_nil]; rfl
    | cons w more =>
      rw [itemChars, ofChars_append, ofChars_cons_of_ascii (by decide), ih]
      · rfl
      · simp

theorem ofChars_memberChars (ms : List (String × Json)) :
    ofChars (memberChars ms) = membersAhead true ms := by
  induction ms with
  | nil => rfl
  | cons e rest ih =>
    obtain ⟨k, v⟩ := e
    cases rest with
    | nil =>
      rw [memberChars, ofChars_append, ofChars_cons_of_ascii (by decide), membersAhead,
        membersAhead, List.append_nil]
      rfl
    | cons f more =>
      rw [memberChars, ofChars_append, ofChars_append, ofChars_cons_of_ascii (by decide),
        ofChars_cons_of_ascii (by decide), ih, membersAhead, List.append_assoc]
      · rfl
      · simp

theorem ofChars_arr (items : List Json) :
    ofChars (chars (arr items)) = byte '[' :: (itemsAhead true items ++ [byte ']']) := by
  rw [chars, List.cons_append, ofChars_cons_of_ascii (by decide), ofChars_append,
    ofChars_itemChars]
  rfl

theorem ofChars_obj (ms : List (String × Json)) :
    ofChars (chars (obj ms)) = byte '{' :: (membersAhead true ms ++ [byte '}']) := by
  rw [chars, List.cons_append, ofChars_cons_of_ascii (by decide), ofChars_append,
    ofChars_memberChars]
  rfl

theorem exists_opens (v : Json) : ∃ b bs, ofChars (chars v) = b :: bs ∧ Opens b := by
  cases v with
  | null => exact ⟨byte 'n', _, rfl, by decide, by decide⟩
  | bool b => cases b <;> exact ⟨_, _, rfl, by decide, by decide⟩
  | num n =>
    obtain ⟨b, bs, hbytes, hb⟩ := startsNumber_of_hasHead (hasHead_jsonText n)
    exact ⟨b, bs, hbytes, hb.isSpace, hb.ne (by decide)⟩
  | str s => exact ⟨_, _, ofChars_quoted s, by decide, by decide⟩
  | arr items => exact ⟨_, _, ofChars_arr items, by decide, by decide⟩
  | obj ms => exact ⟨_, _, ofChars_obj ms, by decide, by decide⟩

theorem length_pos (v : Json) : 0 < (ofChars (chars v)).length := by
  obtain ⟨b, bs, hbytes, _⟩ := exists_opens v
  rw [hbytes]
  exact Nat.succ_pos _

theorem closes_itemsAhead (items : List Json) (tail : List UInt8) :
    Closes (itemsAhead false items ++ byte ']' :: tail) := by
  cases items with
  | nil => exact .bracket tail
  | cons v rest => exact .comma _

theorem closes_membersAhead (ms : List (String × Json)) (tail : List UInt8) :
    Closes (membersAhead false ms ++ byte '}' :: tail) := by
  cases ms with
  | nil => exact .brace tail
  | cons e rest => exact .comma _

/-! ## Parts -/

section Parts

variable {c : Cursor} {tail : List UInt8}

theorem skipSpace_of_closes (htail : Closes tail) (hc : c.rest = tail) :
    c.skipSpace.rest = tail := by
  rw [skipSpace_eq_self, hc]
  intro b hb
  rw [hc] at hb
  exact htail.head_not_space b hb

theorem readItemStart_end (first : Bool) (hc : c.skipSpace.rest = byte ']' :: tail) :
    readItemStart first c = .ok (false, c.skipSpace) := by
  rw [readItemStart, peek?_of_rest hc]
  simp only [if_true]

theorem readItemStart_next {first : Bool} {b : UInt8} (hb : Opens b)
    (hc : c.skipSpace.rest = separator first ++ b :: tail) :
    ∃ c', readItemStart first c = .ok (true, c') ∧ c'.rest = b :: tail := by
  cases first with
  | true =>
    have hahead : c.skipSpace.rest = b :: tail := hc
    refine ⟨c.skipSpace, ?_, hahead⟩
    rw [readItemStart, peek?_of_rest hahead]
    simp only [hb.notEnd, if_false, if_true]
  | false =>
    have hcomma : c.skipSpace.rest = byte ',' :: b :: tail := hc
    have hafter : c.skipSpace.advance.rest = b :: tail := by
      rw [rest_advance, hcomma, List.tail_cons]
    have hskip := skipSpace_of_cons hafter hb.notSpace
    have hnot : byte ',' ≠ byte ']' := by decide
    refine ⟨c.skipSpace.advance, ?_, hafter⟩
    rw [readItemStart, peek?_of_rest hcomma]
    simp only [hnot, if_false, if_true, Bool.false_eq_true, hskip, peek?_of_rest hafter, hb.notEnd]

theorem readMemberStart_end (first : Bool) (hc : c.skipSpace.rest = byte '}' :: tail) :
    readMemberStart first c = .ok (false, c.skipSpace) := by
  rw [readMemberStart, peek?_of_rest hc]
  simp only [if_true]

theorem readMemberStart_next {first : Bool}
    (hc : c.skipSpace.rest = separator first ++ byte '"' :: tail) :
    ∃ c', readMemberStart first c = .ok (true, c') ∧ c'.rest = byte '"' :: tail := by
  obtain ⟨ws, hws, hspans⟩ := spans_skipSpace c
  rw [Spans, hc] at hspans
  cases first with
  | true => exact readMemberStart_of_separator .first hws hspans
  | false =>
    have hcomma : c.rest = (ws ++ [byte ',']) ++ ([] ++ byte '"' :: tail) := by
      rw [List.append_assoc]
      exact hspans
    exact readMemberStart_of_separator (.comma hws) blank_nil hcomma

end Parts

/-! ## Values -/

/-- A value is read from its text with so many levels left, whatever may follow. -/
def ReadsBack (depth : Nat) (v : Json) : Prop :=
  ∀ (fuel : Nat) (c : Cursor) (tail : List UInt8), 2 * (ofChars (chars v)).length ≤ fuel →
    Closes tail → c.rest = ofChars (chars v) ++ tail →
    ∃ c', readValue fuel depth c = .ok (v, c') ∧ c'.skipSpace.rest = tail

/-- An item is read, and then the items after it. -/
theorem readItems_cons {v : Json} {rest : List Json} {first : Bool} (fuel depth : Nat)
    {c : Cursor} {tail : List UInt8}
    (hc : c.skipSpace.rest = itemsAhead first (v :: rest) ++ byte ']' :: tail) :
    ∃ c₁, c₁.rest = ofChars (chars v) ++ (itemsAhead false rest ++ byte ']' :: tail) ∧
      readItems (fuel + 1) depth first c =
        match readValue fuel depth c₁ with
        | .error e => .error e
        | .ok (v, c) => (readItems fuel depth false c).map fun r => (v :: r.1, r.2) := by
  obtain ⟨b, bs, hbytes, hb⟩ := exists_opens v
  rw [itemsAhead, List.append_assoc, List.append_assoc] at hc
  have hahead : c.skipSpace.rest =
      separator first ++ b :: (bs ++ (itemsAhead false rest ++ byte ']' :: tail)) := by
    rw [hc, hbytes, List.cons_append]
  obtain ⟨c₁, hstart, hc₁⟩ := readItemStart_next hb hahead
  rw [← List.cons_append, ← hbytes] at hc₁
  refine ⟨c₁, hc₁, ?_⟩
  rcases hvalue : readValue fuel depth c₁ with e | ⟨w, c₂⟩ <;>
    simp only [readItems, hstart, hvalue]

theorem readItems_itemsAhead {depth : Nat} {items : List Json}
    (h : ∀ v ∈ items, ReadsBack depth v) {first : Bool} {fuel : Nat} {c : Cursor}
    {tail : List UInt8} (hfuel : 2 * (itemsAhead first items).length < fuel)
    (hc : c.skipSpace.rest = itemsAhead first items ++ byte ']' :: tail) :
    ∃ c', readItems fuel depth first c = .ok (items, c') ∧ c'.rest = tail := by
  obtain ⟨k, rfl⟩ : ∃ k, fuel = k + 1 := ⟨fuel - 1, by omega⟩
  induction items generalizing first k c with
  | nil =>
    have hend : c.skipSpace.rest = byte ']' :: tail := hc
    refine ⟨c.skipSpace.advance, ?_, by rw [rest_advance, hend, List.tail_cons]⟩
    rw [readItems, readItemStart_end first hend]
  | cons v rest ih =>
    have hlength := length_pos v
    simp only [itemsAhead, List.length_append] at hfuel
    obtain ⟨j, rfl⟩ : ∃ j, k = j + 1 := ⟨k - 1, by omega⟩
    obtain ⟨c₁, hc₁, hread⟩ := readItems_cons (j + 1) depth hc
    obtain ⟨c₂, hvalue, hc₂⟩ := h v List.mem_cons_self (j + 1) c₁ _ (by omega)
      (closes_itemsAhead rest tail) hc₁
    obtain ⟨c₃, hitems, hc₃⟩ := ih (fun w hw => h w (List.mem_cons_of_mem v hw)) (k := j)
      hc₂ (by omega)
    refine ⟨c₃, ?_, hc₃⟩
    rw [hread, hvalue]
    simp only [hitems]
    rfl

/-- A member is read, and then the members after it. -/
theorem readMembers_cons {key : String} {v : Json} {rest : List (String × Json)} {first : Bool}
    (fuel depth : Nat) (acc : List (String × Json)) {c : Cursor} {tail : List UInt8}
    (hc : c.skipSpace.rest = membersAhead first ((key, v) :: rest) ++ byte '}' :: tail) :
    ∃ c₁, c₁.rest = ofChars (chars v) ++ (membersAhead false rest ++ byte '}' :: tail) ∧
      readMembers (fuel + 1) depth first acc c =
        match readValue fuel depth c₁ with
        | .error e => .error e
        | .ok (v, c) => readMembers fuel depth false (Keyed.insert key v acc) c := by
  rw [membersAhead, List.append_assoc, List.append_assoc, List.cons_append, List.append_assoc,
    ofChars_quoted, List.cons_append] at hc
  obtain ⟨c₁, hstart, hc₁⟩ := readMemberStart_next hc
  rw [← List.cons_append, ← ofChars_quoted] at hc₁
  obtain ⟨c₂, hkey, hc₂⟩ := readText_quoted key hc₁
  obtain ⟨c₃, hcolon, hc₃⟩ := readColon_of_blank blank_nil hc₂
  refine ⟨c₃, hc₃, ?_⟩
  rcases hvalue : readValue fuel depth c₃ with e | ⟨w, c₄⟩ <;>
    simp only [readMembers, hstart, hkey, hcolon, hvalue]

theorem readMembers_membersAhead {depth : Nat} {ms : List (String × Json)}
    (h : ∀ e ∈ ms, ReadsBack depth e.2) {first : Bool} {fuel : Nat} (acc : List (String × Json))
    (hkeys : Keyed.Ordered (acc ++ ms)) {c : Cursor} {tail : List UInt8}
    (hfuel : 2 * (membersAhead first ms).length < fuel)
    (hc : c.skipSpace.rest = membersAhead first ms ++ byte '}' :: tail) :
    ∃ c', readMembers fuel depth first acc c = .ok (acc ++ ms, c') ∧ c'.rest = tail := by
  obtain ⟨k, rfl⟩ : ∃ k, fuel = k + 1 := ⟨fuel - 1, by omega⟩
  induction ms generalizing first k acc c with
  | nil =>
    have hend : c.skipSpace.rest = byte '}' :: tail := hc
    refine ⟨c.skipSpace.advance, ?_, by rw [rest_advance, hend, List.tail_cons]⟩
    rw [readMembers, readMemberStart_end first hend, List.append_nil]
  | cons e rest ih =>
    obtain ⟨key, v⟩ := e
    have hlength := length_pos v
    simp only [membersAhead, List.length_append, List.length_cons] at hfuel
    obtain ⟨j, rfl⟩ : ∃ j, k = j + 1 := ⟨k - 1, by omega⟩
    obtain ⟨c₁, hc₁, hread⟩ := readMembers_cons (j + 1) depth acc hc
    have hfuel₁ : 2 * (ofChars (chars v)).length ≤ j + 1 := by omega
    obtain ⟨c₂, hvalue, hc₂⟩ := h (key, v) List.mem_cons_self (j + 1) c₁ _ hfuel₁
      (closes_membersAhead rest tail) hc₁
    have hkeys' : Keyed.Ordered ((acc ++ [(key, v)]) ++ rest) := by
      rw [List.append_assoc]
      exact hkeys
    obtain ⟨c₃, hmembers, hc₃⟩ := ih (fun f hf => h f (List.mem_cons_of_mem _ hf))
      (k := j) _ hkeys' hc₂ (by omega)
    refine ⟨c₃, ?_, hc₃⟩
    rw [hread, hvalue]
    simp only [Keyed.insert_of_ordered_append hkeys, hmembers, List.append_assoc,
      List.singleton_append]

/-- After the opening of an array there is no blank to pass over. -/
theorem skipSpace_of_itemsAhead {items : List Json} {c : Cursor} {tail : List UInt8}
    (hc : c.rest = itemsAhead true items ++ byte ']' :: tail) : c.skipSpace = c := by
  cases items with
  | nil => exact skipSpace_of_cons hc (by decide)
  | cons v rest =>
    obtain ⟨b, bs, hbytes, hb⟩ := exists_opens v
    rw [itemsAhead, hbytes] at hc
    exact skipSpace_of_cons hc hb.notSpace

/-- After the opening of an object there is no blank to pass over. -/
theorem skipSpace_of_membersAhead {ms : List (String × Json)} {c : Cursor} {tail : List UInt8}
    (hc : c.rest = membersAhead true ms ++ byte '}' :: tail) : c.skipSpace = c := by
  cases ms with
  | nil => exact skipSpace_of_cons hc (by decide)
  | cons e rest =>
    rw [membersAhead, ofChars_quoted] at hc
    exact skipSpace_of_cons hc (by decide)

section Dispatch

variable {c : Cursor} (fuel depth : Nat) (hskip : c.skipSpace = c)

include hskip

/-- At a quote a text is read. -/
theorem readValue_of_quote (hpeek : c.peek? = some (byte '"')) :
    readValue (fuel + 1) depth c = (readText c.advance).map fun r => (str r.1, r.2) := by
  have hn : byte '"' ≠ byte 'n' := by decide
  have ht : byte '"' ≠ byte 't' := by decide
  have hf : byte '"' ≠ byte 'f' := by decide
  have hminus : byte '"' ≠ byte '-' := by decide
  have hdigit : isDigit (byte '"') = false := by decide
  rw [readValue.eq_def]
  simp only [hskip, hpeek, hn, ht, hf, hminus, hdigit, Bool.false_eq_true, if_false, if_true]

/-- At an opening bracket items are read, with one level less left, if there is one. -/
theorem readValue_of_bracket (hpeek : c.peek? = some (byte '[')) :
    readValue (fuel + 1) depth c =
      match depth with
      | 0 => c.failAhead .tooDeep
      | depth + 1 => (readItems fuel depth true c.advance).map fun r => (arr r.1, r.2) := by
  have hn : byte '[' ≠ byte 'n' := by decide
  have ht : byte '[' ≠ byte 't' := by decide
  have hf : byte '[' ≠ byte 'f' := by decide
  have hminus : byte '[' ≠ byte '-' := by decide
  have hdigit : isDigit (byte '[') = false := by decide
  have hquote : byte '[' ≠ byte '"' := by decide
  rw [readValue.eq_def]
  cases depth <;>
    simp only [hskip, hpeek, hn, ht, hf, hminus, hdigit, hquote, Bool.false_eq_true, if_false,
      if_true]

/-- At an opening brace members are read, with one level less left, if there is one. -/
theorem readValue_of_brace (hpeek : c.peek? = some (byte '{')) :
    readValue (fuel + 1) depth c =
      match depth with
      | 0 => c.failAhead .tooDeep
      | depth + 1 => (readMembers fuel depth true [] c.advance).map fun r => (obj r.1, r.2) := by
  have hn : byte '{' ≠ byte 'n' := by decide
  have ht : byte '{' ≠ byte 't' := by decide
  have hf : byte '{' ≠ byte 'f' := by decide
  have hminus : byte '{' ≠ byte '-' := by decide
  have hdigit : isDigit (byte '{') = false := by decide
  have hquote : byte '{' ≠ byte '"' := by decide
  have hbracket : byte '{' ≠ byte '[' := by decide
  rw [readValue.eq_def]
  cases depth <;>
    simp only [hskip, hpeek, hn, ht, hf, hminus, hdigit, hquote, hbracket, Bool.false_eq_true,
      if_false, if_true]

end Dispatch

/-- At the text of a value there is no blank to pass over. -/
theorem skipSpace_of_value {v : Json} {c : Cursor} {tail : List UInt8}
    (hc : c.rest = ofChars (chars v) ++ tail) : c.skipSpace = c := by
  obtain ⟨b, bs, hbytes, hb⟩ := exists_opens v
  rw [hbytes, List.cons_append] at hc
  exact skipSpace_of_cons hc hb.notSpace

/-- A value that is a word is read. -/
theorem readsBack_word {v : Json} (w : Char) (word : List Char)
    (hchars : ofChars (chars v) = byte w :: word.map byte)
    (hread : ∀ fuel depth c, c.skipSpace = c → c.peek? = some (byte w) →
      readValue (fuel + 1) depth c = (readWord word c.advance).map fun r => (v, r.2))
    (depth : Nat) : ReadsBack depth v := by
  intro fuel c tail hfuel htail hc
  have hskip := skipSpace_of_value hc
  obtain ⟨k, rfl⟩ : ∃ k, fuel = k + 1 := ⟨fuel - 1, by have := length_pos v; omega⟩
  rw [hchars, List.cons_append] at hc
  have hadvance : c.advance.rest = word.map byte ++ tail := by
    rw [rest_advance, hc, List.tail_cons]
  obtain ⟨c', hword, hc'⟩ := readWord_map word hadvance
  refine ⟨c', ?_, skipSpace_of_closes htail hc'⟩
  rw [hread k depth c hskip (peek?_of_rest hc), hword]
  rfl

theorem readsBack_null (depth : Nat) : ReadsBack depth null := by
  refine readsBack_word 'n' "ull".toList rfl (fun fuel depth c hskip hpeek => ?_) depth
  rw [readValue.eq_def]
  simp only [hskip, hpeek, if_true]

theorem readsBack_bool (depth : Nat) (b : Bool) : ReadsBack depth (bool b) := by
  have htn : byte 't' ≠ byte 'n' := by decide
  have hfn : byte 'f' ≠ byte 'n' := by decide
  have hft : byte 'f' ≠ byte 't' := by decide
  cases b with
  | true =>
    refine readsBack_word 't' "rue".toList rfl (fun fuel depth c hskip hpeek => ?_) depth
    rw [readValue.eq_def]
    simp only [hskip, hpeek, htn, if_false, if_true]
  | false =>
    refine readsBack_word 'f' "alse".toList rfl (fun fuel depth c hskip hpeek => ?_) depth
    rw [readValue.eq_def]
    simp only [hskip, hpeek, hfn, hft, if_false, if_true]

theorem readsBack_num {n : Number} (h : n.Legible) (depth : Nat) : ReadsBack depth (num n) := by
  intro fuel c tail hfuel htail hc
  obtain ⟨k, rfl⟩ : ∃ k, fuel = k + 1 := ⟨fuel - 1, by have := length_pos (.num n); omega⟩
  exact readValue_number h k depth htail hc

theorem readsBack_str (depth : Nat) (s : String) : ReadsBack depth (str s) := by
  intro fuel c tail hfuel htail hc
  have hskip := skipSpace_of_value hc
  obtain ⟨k, rfl⟩ : ∃ k, fuel = k + 1 := ⟨fuel - 1, by have := length_pos (.str s); omega⟩
  obtain ⟨c', htext, hc'⟩ := readText_quoted s hc
  refine ⟨c', ?_, skipSpace_of_closes htail hc'⟩
  rw [chars, ofChars_quoted, List.cons_append] at hc
  rw [readValue_of_quote k depth hskip (peek?_of_rest hc), htext]
  rfl

/-- With a level left the items of an array are read where they are ahead. -/
theorem readValue_arr {items : List Json} {c : Cursor} {tail : List UInt8} (fuel depth : Nat)
    (hc : c.rest = ofChars (chars (arr items)) ++ tail) :
    readValue (fuel + 1) (depth + 1) c =
        (readItems fuel depth true c.advance).map (fun r => (arr r.1, r.2)) ∧
      c.advance.skipSpace.rest = itemsAhead true items ++ byte ']' :: tail := by
  have hskip := skipSpace_of_value hc
  rw [ofChars_arr, List.cons_append, List.append_assoc] at hc
  have hahead : c.advance.rest = itemsAhead true items ++ byte ']' :: tail := by
    rw [rest_advance, hc, List.tail_cons]
    rfl
  refine ⟨readValue_of_bracket fuel (depth + 1) hskip (peek?_of_rest hc), ?_⟩
  rw [skipSpace_of_itemsAhead hahead, hahead]

/-- With a level left the members of an object are read where they are ahead. -/
theorem readValue_obj {ms : List (String × Json)} {c : Cursor} {tail : List UInt8}
    (fuel depth : Nat) (hc : c.rest = ofChars (chars (obj ms)) ++ tail) :
    readValue (fuel + 1) (depth + 1) c =
        (readMembers fuel depth true [] c.advance).map (fun r => (obj r.1, r.2)) ∧
      c.advance.skipSpace.rest = membersAhead true ms ++ byte '}' :: tail := by
  have hskip := skipSpace_of_value hc
  rw [ofChars_obj, List.cons_append, List.append_assoc] at hc
  have hahead : c.advance.rest = membersAhead true ms ++ byte '}' :: tail := by
    rw [rest_advance, hc, List.tail_cons]
    rfl
  refine ⟨readValue_of_brace fuel (depth + 1) hskip (peek?_of_rest hc), ?_⟩
  rw [skipSpace_of_membersAhead hahead, hahead]

theorem readsBack_arr {depth : Nat} {items : List Json} (h : ∀ v ∈ items, ReadsBack depth v) :
    ReadsBack (depth + 1) (arr items) := by
  intro fuel c tail hfuel htail hc
  rw [ofChars_arr, List.length_cons, List.length_append] at hfuel
  obtain ⟨k, rfl⟩ : ∃ k, fuel = k + 1 := ⟨fuel - 1, by omega⟩
  have hfuel' : 2 * (itemsAhead true items).length < k := by omega
  obtain ⟨hvalue, hahead⟩ := readValue_arr k depth hc
  obtain ⟨c', hitems, hc'⟩ := readItems_itemsAhead h hfuel' hahead
  refine ⟨c', ?_, skipSpace_of_closes htail hc'⟩
  rw [hvalue, hitems]
  rfl

theorem readsBack_obj {depth : Nat} {ms : List (String × Json)} (hkeys : Keyed.Ordered ms)
    (h : ∀ e ∈ ms, ReadsBack depth e.2) : ReadsBack (depth + 1) (obj ms) := by
  intro fuel c tail hfuel htail hc
  rw [ofChars_obj, List.length_cons, List.length_append] at hfuel
  obtain ⟨k, rfl⟩ : ∃ k, fuel = k + 1 := ⟨fuel - 1, by omega⟩
  have hfuel' : 2 * (membersAhead true ms).length < k := by omega
  obtain ⟨hvalue, hahead⟩ := readValue_obj k depth hc
  obtain ⟨c', hmembers, hc'⟩ := readMembers_membersAhead h [] hkeys hfuel' hahead
  refine ⟨c', ?_, skipSpace_of_closes htail hc'⟩
  rw [hvalue, hmembers]
  rfl

/-- A readable value is read from its text, whatever may follow. -/
theorem readsBack_of_readable {depth : Nat} {v : Json} (h : Readable depth v) :
    ReadsBack depth v := by
  induction h with
  | null depth => exact readsBack_null depth
  | bool depth b => exact readsBack_bool depth b
  | num depth h => exact readsBack_num h depth
  | str depth s => exact readsBack_str depth s
  | arr _ ih => exact readsBack_arr ih
  | obj hkeys _ ih => exact readsBack_obj hkeys ih

/-- The reader starts at the text of a value. -/
theorem rest_start_text (v : Json) :
    (Cursor.start (Utf8.encode v.text)).rest = ofChars (chars v) ++ [] := by
  rw [Cursor.start, Utf8.encode, text, String.toList_ofList, List.append_nil]

/-- The reader starts with steps enough for a value. -/
theorem le_stepBound_text (v : Json) :
    2 * (ofChars (chars v)).length ≤ stepBound (Cursor.start (Utf8.encode v.text)) := by
  rw [stepBound, rest_start_text, List.append_nil]
  omega

/-- A readable value is read back from its text. -/
theorem ofText_text {v : Json} (h : Readable maxDepth v) : ofText v.text = .ok v := by
  obtain ⟨c, hread, hc⟩ :=
    readsBack_of_readable h _ _ _ (le_stepBound_text v) .nil (rest_start_text v)
  rw [ofText, read]
  simp only [hread, readEnd, peek?, hc]
  rfl

end Json

end IndexKeeper
