import IndexKeeper.Json.Basic

/-!
# Writing JSON

A value as JSON text without blanks.  In a text only the quote, the backslash and the control
characters below the space are escaped, five of them by a letter and the rest by four lower-case
hexadecimal digits.
-/

namespace IndexKeeper.Json

/-- A hexadecimal digit, lower case. -/
def hexDigit (n : Nat) : Char := (Nat.digitChar n)

/-- A character as it stands in a quoted text. -/
def escapeChar (c : Char) : List Char :=
  match c with
  | '"' => ['\\', '"']
  | '\\' => ['\\', '\\']
  | '\x08' => ['\\', 'b']
  | '\t' => ['\\', 't']
  | '\n' => ['\\', 'n']
  | '\x0c' => ['\\', 'f']
  | '\r' => ['\\', 'r']
  | c =>
    if c.toNat < 0x20 then ['\\', 'u', '0', '0', hexDigit (c.toNat / 16), hexDigit (c.toNat % 16)]
    else [c]

/-- A text in quotes. -/
def quoted (s : String) : List Char :=
  '"' :: s.toList.flatMap escapeChar ++ ['"']

mutual

/-- The characters of a value. -/
def chars : Json → List Char
  | null => "null".toList
  | bool true => "true".toList
  | bool false => "false".toList
  | num n => n.jsonText.toList
  | str s => quoted s
  | arr items => '[' :: itemChars items ++ [']']
  | obj ms => '{' :: memberChars ms ++ ['}']

/-- The items of an array with commas between them. -/
def itemChars : List Json → List Char
  | [] => []
  | [v] => chars v
  | v :: rest => chars v ++ ',' :: itemChars rest

/-- The members of an object with commas between them. -/
def memberChars : List (String × Json) → List Char
  | [] => []
  | [(k, v)] => quoted k ++ ':' :: chars v
  | (k, v) :: rest => quoted k ++ ':' :: chars v ++ ',' :: memberChars rest

end

/-- A value as JSON text. -/
def text (v : Json) : String := String.ofList (chars v)

/-- The one text by which two leaves of settings are compared: a text value is its own text, so a
typed value equals the text that a server echoes for it. -/
def canonicalText : Json → String
  | str s => s
  | num n => n.canonicalText
  | v => v.text

end IndexKeeper.Json
