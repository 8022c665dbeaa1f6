/-!
# Splitting

The parts of a text between its separators.  Joining the parts with their separator gives the text
back.
-/

namespace IndexKeeper

/-- The parts of a text between the characters that are separators. -/
def splitChars (isSeparator : Char → Bool) : List Char → List (List Char)
  | [] => [[]]
  | c :: rest =>
    if isSeparator c then [] :: splitChars isSeparator rest
    else match splitChars isSeparator rest with
      | [] => [[c]]
      | part :: parts => (c :: part) :: parts

theorem splitChars_ne_nil (isSeparator : Char → Bool) (cs : List Char) :
    splitChars isSeparator cs ≠ [] := by
  cases cs with
  | nil => simp [splitChars]
  | cons c rest =>
    unfold splitChars
    split
    · simp
    · split <;> simp

/-- The parts joined by their separator are the text. -/
theorem intercalate_splitChars (separator : Char) (cs : List Char) :
    [separator].intercalate (splitChars (· == separator) cs) = cs := by
  induction cs with
  | nil => rfl
  | cons c rest ih =>
    unfold splitChars
    split
    · next h =>
      have hc : c = separator := by simpa using h
      cases e : splitChars (· == separator) rest with
      | nil => exact absurd e (splitChars_ne_nil _ _)
      | cons part parts => rw [e] at ih; simp [List.intercalate_cons_cons, ih, hc]
    · cases e : splitChars (· == separator) rest with
      | nil => exact absurd e (splitChars_ne_nil _ _)
      | cons part parts =>
        rw [e] at ih
        cases parts with
        | nil => simp_all
        | cons next more => simp_all [List.intercalate_cons_cons]

/-- What stands before the first character that a test holds of, and what stands after it, if
there is one. -/
def splitFirst (test : Char → Bool) (cs : List Char) : List Char × Option (List Char) :=
  match cs.dropWhile fun c => !test c with
  | [] => (cs, none)
  | _ :: after => (cs.takeWhile fun c => !test c, some after)

/-- A text split at a character is the text, and what stands before is free of such characters. -/
theorem eq_append_of_splitFirst {test : Char → Bool} {cs before after : List Char}
    (h : splitFirst test cs = (before, some after)) :
    ∃ c, test c = true ∧ cs = before ++ c :: after ∧ ∀ x ∈ before, test x = false := by
  unfold splitFirst at h
  split at h
  · simp at h
  · next c rest e =>
    obtain ⟨rfl, rfl⟩ : cs.takeWhile (fun c => !test c) = before ∧ rest = after := by simpa using h
    refine ⟨c, ?_, ?_, fun x hx => ?_⟩
    · have := List.head?_dropWhile_not (fun c => !test c) cs
      rw [e] at this; simpa using this
    · rw [← e]; exact (List.takeWhile_append_dropWhile).symm
    · have := List.all_eq_true.mp (List.all_takeWhile (p := fun c => !test c) (l := cs)) x hx
      simpa using this

/-- What stands before and after the last character that a test holds of, if there is one. -/
def splitLast? (test : Char → Bool) (cs : List Char) : Option (List Char × List Char) :=
  match splitFirst test cs.reverse with
  | (after, some before) => some (before.reverse, after.reverse)
  | _ => none

end IndexKeeper
