import IndexKeeper.Text.Digits
import IndexKeeper.Text.Split

/-!
# Ranges of characters

A property of characters as the ranges of numbers that have it.  A table is written in lines of
words, each one number in hexadecimal digits or the first and the last of a range with a hyphen
between them.
-/

namespace IndexKeeper

/-- The number of hexadecimal digits. -/
def hexNumber (cs : List Char) : Nat := (digitsValue? 16 cs).getD 0

/-- The words of the lines of a table. -/
def tableWords (lines : List String) : List (List Char) :=
  lines.flatMap fun line => splitChars (· == ' ') line.toList

/-- Closed ranges of the numbers of characters. -/
structure Ranges where
  ranges : List (Nat × Nat)

namespace Ranges

/-- The range that a word stands for. -/
def ofWord (word : List Char) : Nat × Nat :=
  let (first, last) := splitFirst (· == '-') word
  (hexNumber first, hexNumber (last.getD first))

/-- The ranges of a table. -/
def ofLines (lines : List String) : Ranges := ⟨(tableWords lines).map ofWord⟩

/-- Whether a character is in one of the ranges. -/
def contains (r : Ranges) (c : Char) : Bool :=
  r.ranges.any fun (first, last) => first ≤ c.toNat && c.toNat ≤ last

end Ranges

end IndexKeeper
