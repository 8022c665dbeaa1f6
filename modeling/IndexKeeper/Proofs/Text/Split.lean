import IndexKeeper.Text.Split
import Mathlib.Data.List.TakeWhile

/-!
# Splitting and appending

What the parts of a text say of the parts of a longer one.  A text that is split at every separator
is split in two independent halves by any one of them (`splitChars_append_cons`), and joining parts
without separators is undone by splitting (`splitChars_intercalate`).  A text that is split at its
first separator only is split there whatever follows (`splitFirst_append`).
-/

namespace IndexKeeper

/-! ## At every separator -/

/-- No part contains a separator. -/
theorem eq_false_of_mem_splitChars {isSeparator : Char → Bool} {cs part : List Char} {c : Char}
    (hpart : part ∈ splitChars isSeparator cs) (hc : c ∈ part) : isSeparator c = false := by
  induction cs generalizing part with
  | nil =>
    rw [splitChars, List.mem_singleton] at hpart
    rw [hpart] at hc
    cases hc
  | cons d rest ih =>
    rw [splitChars] at hpart
    split at hpart
    · rcases List.mem_cons.mp hpart with rfl | hrest
      · cases hc
      · exact ih hrest hc
    · next hd =>
      split at hpart
      · next hnil => exact absurd hnil (splitChars_ne_nil _ _)
      · next first parts hparts =>
        rcases List.mem_cons.mp hpart with rfl | hrest
        · rcases List.mem_cons.mp hc with rfl | htail
          · simpa using hd
          · exact ih (hparts ▸ List.mem_cons_self) htail
        · exact ih (hparts ▸ List.mem_cons_of_mem _ hrest) hc

/-- A text without separators is one part. -/
theorem splitChars_of_forall {isSeparator : Char → Bool} {cs : List Char}
    (h : ∀ c ∈ cs, isSeparator c = false) : splitChars isSeparator cs = [cs] := by
  induction cs with
  | nil => rfl
  | cons c rest ih =>
    have hc : isSeparator c = false := h c List.mem_cons_self
    have hrest := ih fun d hd => h d (List.mem_cons_of_mem _ hd)
    simp [splitChars, hc, hrest]

/-- A separator splits a text in two halves, each split by itself. -/
theorem splitChars_append_cons {isSeparator : Char → Bool} {s : Char} (hs : isSeparator s = true)
    (cs rest : List Char) :
    splitChars isSeparator (cs ++ s :: rest) =
      splitChars isSeparator cs ++ splitChars isSeparator rest := by
  induction cs with
  | nil => simp [splitChars, hs]
  | cons c tail ih =>
    rw [List.cons_append, splitChars, splitChars, ih]
    split
    · rw [List.cons_append]
    · cases htail : splitChars isSeparator tail with
      | nil => exact absurd htail (splitChars_ne_nil _ _)
      | cons part parts => rfl

/-- Parts without separators, joined by one, are what the text is split into. -/
theorem splitChars_intercalate {separator : Char} {parts : List (List Char)} (hne : parts ≠ [])
    (h : ∀ part ∈ parts, separator ∉ part) :
    splitChars (· == separator) ([separator].intercalate parts) = parts := by
  have free : ∀ part ∈ parts, ∀ c ∈ part, (c == separator) = false := by
    intro part hpart c hc
    rw [beq_eq_false_iff_ne]
    rintro rfl
    exact h part hpart hc
  induction parts with
  | nil => exact absurd rfl hne
  | cons part rest ih =>
    have hpart := free part List.mem_cons_self
    cases rest with
    | nil =>
      rw [List.intercalate_singleton]
      exact splitChars_of_forall hpart
    | cons next more =>
      have hrest := ih (by simp) (fun q hq => h q (List.mem_cons_of_mem _ hq))
        (fun q hq => free q (List.mem_cons_of_mem _ hq))
      rw [List.intercalate_cons_cons, List.append_assoc, List.singleton_append,
        splitChars_append_cons (by simp), splitChars_of_forall hpart, hrest,
        List.singleton_append]

/-! ## At the first separator -/

section First

variable {test : Char → Bool} {cs before after : List Char}

/-- A text without separators is not split. -/
theorem splitFirst_of_forall (h : ∀ c ∈ cs, test c = false) : splitFirst test cs = (cs, none) := by
  have hnil : cs.dropWhile (fun c => !test c) = [] := by
    rw [List.dropWhile_eq_nil_iff]
    intro c hc
    rw [h c hc, Bool.not_false]
  rw [splitFirst, hnil]

/-- A text that is not split has no separators. -/
theorem eq_of_splitFirst_none (h : splitFirst test cs = (before, none)) :
    before = cs ∧ ∀ c ∈ cs, test c = false := by
  rw [splitFirst] at h
  split at h
  · next hnil =>
    rw [List.dropWhile_eq_nil_iff] at hnil
    refine ⟨(Prod.mk.inj h).1.symm, ?_⟩
    intro c hc
    simpa using hnil c hc
  · cases (Prod.mk.inj h).2

/-- Where a text is split it stays split whatever follows. -/
theorem splitFirst_append (h : splitFirst test cs = (before, some after)) (rest : List Char) :
    splitFirst test (cs ++ rest) = (before, some (after ++ rest)) := by
  obtain ⟨c, hc, rfl, hbefore⟩ := eq_append_of_splitFirst h
  have hpass : ∀ x ∈ before, (!test x) = true := by
    intro x hx
    rw [hbefore x hx, Bool.not_false]
  rw [List.append_assoc, List.cons_append, splitFirst, List.dropWhile_append_of_pos hpass,
    List.takeWhile_append_of_pos hpass]
  simp [hc]

end First

end IndexKeeper
