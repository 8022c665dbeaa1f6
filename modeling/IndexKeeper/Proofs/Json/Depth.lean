import IndexKeeper.Proofs.Json.RoundTrip

/-!
# Values that nest too deep

A value that would be readable with more levels, and has an array or an object below the last level,
is refused for this reason: `isTooDeep_ofText`.
-/

namespace IndexKeeper.Json

open Cursor
open Utf8 (ofChars)

/-- An array or an object where no level is left, behind nothing but what is readable. -/
inductive Overflows : Nat → Json → Prop
  | arr (items : List Json) : Overflows 0 (arr items)
  | obj (ms : List (String × Json)) : Overflows 0 (obj ms)
  | item {depth : Nat} (before after : List Json) {v : Json}
    (hbefore : ∀ w ∈ before, Readable depth w) (h : Overflows depth v) :
    Overflows (depth + 1) (arr (before ++ v :: after))
  | member {depth : Nat} (before after : List (String × Json)) {key : String} {v : Json}
    (hbefore : ∀ e ∈ before, Readable depth e.2) (h : Overflows depth v) :
    Overflows (depth + 1) (obj (before ++ (key, v) :: after))

/-- Reading ends with the error that a value nests too deep. -/
def IsTooDeep {α : Type} (r : Except ReadError α) : Prop :=
  ∃ line column, r = .error ⟨.tooDeep, line, column⟩

/-- A value is refused with so many levels left. -/
def Refused (depth : Nat) (v : Json) : Prop :=
  ∀ (fuel : Nat) (c : Cursor) (tail : List UInt8), 2 * (ofChars (chars v)).length ≤ fuel →
    c.rest = ofChars (chars v) ++ tail → IsTooDeep (readValue fuel depth c)

theorem isTooDeep_readItems {depth : Nat} {before after : List Json} {v : Json}
    (hbefore : ∀ w ∈ before, Readable depth w) (h : Refused depth v) {first : Bool} {fuel : Nat}
    {c : Cursor} {tail : List UInt8}
    (hfuel : 2 * (itemsAhead first (before ++ v :: after)).length < fuel)
    (hc : c.skipSpace.rest = itemsAhead first (before ++ v :: after) ++ byte ']' :: tail) :
    IsTooDeep (readItems fuel depth first c) := by
  obtain ⟨k, rfl⟩ : ∃ k, fuel = k + 1 := ⟨fuel - 1, by omega⟩
  induction before generalizing first k c with
  | nil =>
    rw [List.nil_append] at hfuel hc
    simp only [itemsAhead, List.length_append] at hfuel
    obtain ⟨c₁, hc₁, hread⟩ := readItems_cons k depth hc
    obtain ⟨line, column, hvalue⟩ := h k c₁ _ (by omega) hc₁
    rw [hread, hvalue]
    exact ⟨line, column, rfl⟩
  | cons w rest ih =>
    have hlength := length_pos w
    rw [List.cons_append] at hfuel hc
    simp only [itemsAhead, List.length_append] at hfuel
    obtain ⟨j, rfl⟩ : ∃ j, k = j + 1 := ⟨k - 1, by omega⟩
    obtain ⟨c₁, hc₁, hread⟩ := readItems_cons (j + 1) depth hc
    obtain ⟨c₂, hvalue, hc₂⟩ := readsBack_of_readable (hbefore w List.mem_cons_self) (j + 1) c₁ _
      (by omega) (closes_itemsAhead _ tail) hc₁
    obtain ⟨line, column, hrest⟩ := ih (fun x hx => hbefore x (List.mem_cons_of_mem w hx))
      (k := j) hc₂ (by omega)
    rw [hread, hvalue]
    simp only [hrest]
    exact ⟨line, column, rfl⟩

theorem isTooDeep_readMembers {depth : Nat} {before after : List (String × Json)} {key : String}
    {v : Json} (hbefore : ∀ e ∈ before, Readable depth e.2) (h : Refused depth v) {first : Bool}
    {fuel : Nat} (acc : List (String × Json)) {c : Cursor} {tail : List UInt8}
    (hfuel : 2 * (membersAhead first (before ++ (key, v) :: after)).length < fuel)
    (hc : c.skipSpace.rest = membersAhead first (before ++ (key, v) :: after) ++ byte '}' :: tail) :
    IsTooDeep (readMembers fuel depth first acc c) := by
  obtain ⟨k, rfl⟩ : ∃ k, fuel = k + 1 := ⟨fuel - 1, by omega⟩
  induction before generalizing first k acc c with
  | nil =>
    rw [List.nil_append] at hfuel hc
    simp only [membersAhead, List.length_append, List.length_cons] at hfuel
    obtain ⟨c₁, hc₁, hread⟩ := readMembers_cons k depth acc hc
    obtain ⟨line, column, hvalue⟩ := h k c₁ _ (by omega) hc₁
    rw [hread, hvalue]
    exact ⟨line, column, rfl⟩
  | cons e rest ih =>
    obtain ⟨key', w⟩ := e
    have hlength := length_pos w
    rw [List.cons_append] at hfuel hc
    simp only [membersAhead, List.length_append, List.length_cons] at hfuel
    obtain ⟨j, rfl⟩ : ∃ j, k = j + 1 := ⟨k - 1, by omega⟩
    obtain ⟨c₁, hc₁, hread⟩ := readMembers_cons (j + 1) depth acc hc
    have hfuel₁ : 2 * (ofChars (chars w)).length ≤ j + 1 := by omega
    obtain ⟨c₂, hvalue, hc₂⟩ := readsBack_of_readable (hbefore (key', w) List.mem_cons_self) (j + 1)
      c₁ _ hfuel₁ (closes_membersAhead _ tail) hc₁
    rw [hread, hvalue]
    exact ih (fun x hx => hbefore x (List.mem_cons_of_mem _ hx)) (k := j) _ hc₂ (by omega)

theorem refused_of_overflows {depth : Nat} {v : Json} (h : Overflows depth v) :
    Refused depth v := by
  induction h with
  | arr items =>
    intro fuel c tail hfuel hc
    have hskip := skipSpace_of_value hc
    rw [ofChars_arr] at hfuel hc
    obtain ⟨k, rfl⟩ : ∃ k, fuel = k + 1 := ⟨fuel - 1, by rw [List.length_cons] at hfuel; omega⟩
    rw [readValue_of_bracket k 0 hskip (peek?_of_rest hc)]
    exact ⟨_, _, rfl⟩
  | obj ms =>
    intro fuel c tail hfuel hc
    have hskip := skipSpace_of_value hc
    rw [ofChars_obj] at hfuel hc
    obtain ⟨k, rfl⟩ : ∃ k, fuel = k + 1 := ⟨fuel - 1, by rw [List.length_cons] at hfuel; omega⟩
    rw [readValue_of_brace k 0 hskip (peek?_of_rest hc)]
    exact ⟨_, _, rfl⟩
  | @item depth before after v hbefore h ih =>
    intro fuel c tail hfuel hc
    rw [ofChars_arr, List.length_cons, List.length_append] at hfuel
    obtain ⟨k, rfl⟩ : ∃ k, fuel = k + 1 := ⟨fuel - 1, by omega⟩
    have hfuel' : 2 * (itemsAhead true (before ++ v :: after)).length < k := by omega
    obtain ⟨hvalue, hahead⟩ := readValue_arr k depth hc
    obtain ⟨line, column, hitems⟩ := isTooDeep_readItems hbefore ih hfuel' hahead
    rw [hvalue, hitems]
    exact ⟨line, column, rfl⟩
  | @member depth before after key v hbefore h ih =>
    intro fuel c tail hfuel hc
    rw [ofChars_obj, List.length_cons, List.length_append] at hfuel
    obtain ⟨k, rfl⟩ : ∃ k, fuel = k + 1 := ⟨fuel - 1, by omega⟩
    have hfuel' : 2 * (membersAhead true (before ++ (key, v) :: after)).length < k := by omega
    obtain ⟨hvalue, hahead⟩ := readValue_obj k depth hc
    obtain ⟨line, column, hmembers⟩ := isTooDeep_readMembers hbefore ih [] hfuel' hahead
    rw [hvalue, hmembers]
    exact ⟨line, column, rfl⟩

/-- A value that nests too deep is refused for this reason. -/
theorem isTooDeep_ofText {v : Json} (h : Overflows maxDepth v) : IsTooDeep (ofText v.text) := by
  obtain ⟨line, column, hread⟩ :=
    refused_of_overflows h _ _ _ (le_stepBound_text v) (rest_start_text v)
  rw [ofText, read]
  simp only [hread]
  exact ⟨line, column, rfl⟩

end IndexKeeper.Json
