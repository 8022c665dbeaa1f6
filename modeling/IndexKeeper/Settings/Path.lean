import IndexKeeper.Text.Split

/-!
# Setting paths

A setting is addressed by the keys on the way to it.  Written out, the keys are joined by dots;
reading splits at every dot, so a path read from a text has at least one key and is written back
as that text.  Paths are ordered key by key, a path before its extensions.
-/

namespace IndexKeeper

/-- The keys on the way from the root. -/
abbrev Path := List String

namespace Path

/-- The path that a dotted text names. -/
def ofDotted (dotted : String) : Path :=
  (splitChars (· == '.') dotted.toList).map String.ofList

/-- The keys joined by dots. -/
def dotted (p : Path) : String :=
  String.intercalate "." p

/-- Paths in order: the first key that differs decides, and a path comes before its extensions. -/
def order : Path → Path → Ordering
  | [], [] => .eq
  | [], _ :: _ => .lt
  | _ :: _, [] => .gt
  | a :: p, b :: q => if a < b then .lt else if b < a then .gt else order p q

theorem ofDotted_ne_nil (dotted : String) : ofDotted dotted ≠ [] := by
  simp [ofDotted, splitChars_ne_nil]

/-- A path is written as the text that it was read from. -/
theorem dotted_ofDotted (s : String) : (ofDotted s).dotted = s := by
  apply String.toList_inj.mp
  simp only [dotted, ofDotted, String.toList_intercalate, List.map_map]
  have : (String.toList ∘ String.ofList) = id := by funext cs; simp
  rw [this, List.map_id]
  exact intercalate_splitChars '.' s.toList

end Path

end IndexKeeper
