import IndexKeeper.Text.Shown

/-!
# Described texts

A text as an error describes it: in quotes, with quotes and backslashes after a backslash, some
control characters as letters, and every other character that is not shown as it is by its number.
-/

namespace IndexKeeper

/-- A character by its number. -/
def describeCode (n : Nat) : List Char := ['\\', 'u', '{'] ++ Nat.toDigits 16 n ++ ['}']

/-- A character of a described text. -/
def describeChar : Char → List Char
  | '"' => ['\\', '"']
  | '\\' => ['\\', '\\']
  | '\n' => ['\\', 'n']
  | '\r' => ['\\', 'r']
  | '\t' => ['\\', 't']
  | '\x00' => ['\\', '0']
  | c => if isShown c then [c] else describeCode c.toNat

/-- A described text. -/
def describeText (s : String) : String :=
  "string \"" ++ String.ofList (s.toList.flatMap describeChar) ++ "\""

end IndexKeeper
