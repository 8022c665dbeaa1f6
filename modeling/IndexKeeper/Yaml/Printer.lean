import IndexKeeper.Json.Printer
import IndexKeeper.Yaml.Cursor
import IndexKeeper.Yaml.Scalar

/-!
# Writing YAML

A value as a YAML document in block style: a member on a line, what belongs to it two columns
further in, the items of a list behind a dash at the column of their key.  Empty lists and objects
are written in flow style, texts of several lines as literal blocks, and a text that would be read
as something else in single quotes.
-/

namespace IndexKeeper.Yaml

/-! ## Texts -/

/-- Whether a colon ends the text or a part of it, or a comment starts in it. -/
def hasBreak : List Char → Bool
  | [':'] | ':' :: ' ' :: _ | ' ' :: '#' :: _ => true
  | _ :: rest => hasBreak rest
  | [] => false

/-- Whether a text of one line stands for itself without quotes. -/
def isPlain (s : String) : Bool :=
  match s.toList with
  | [] => false
  | c :: rest =>
    !indicators.contains c && c != ' ' && (c :: rest).getLastD c != ' ' && !hasBreak (c :: rest) &&
      Scalar.ofPlain s == .text s

/-- A text in single quotes; a quote in it is written twice. -/
def singleQuote (s : String) : String :=
  "'" ++ String.ofList (s.toList.flatMap fun c => if c = '\x27' then [c, c] else [c]) ++ "'"

/-- A text of one line, as a key or a value. -/
def lineText (s : String) : String := if isPlain s then s else singleQuote s

/-- A line two columns further in; an empty line stays empty. -/
def indented (line : String) : String := if line.isEmpty then line else "  " ++ line

/-- The lines of a text; those of a literal block stand two columns further in. -/
def textLines (s : String) : List String :=
  match s.splitOn "\n" with
  | [line] => [lineText line]
  | several => "|-" :: several.map indented

/-! ## Values -/

/-- The lines of a value as an item of a list. -/
def asItem (v : Json) : List String → List String
  | [] => []
  | first :: rest => ("- " ++ first) :: if v.text?.isSome then rest else rest.map indented

/-- The lines of a value under a key. -/
def asMember (key : String) (v : Json) (lines : List String) : List String :=
  match v, lines with
  | .obj (_ :: _), lines => (key ++ ":") :: lines.map indented
  | .arr (_ :: _), lines => (key ++ ":") :: lines
  | _, first :: rest => (key ++ ": " ++ first) :: rest
  | _, [] => []

mutual

/-- The lines of a value that stands alone. -/
def lines : Json → List String
  | .null => ["null"]
  | .bool b => [toString b]
  | .num n => [n.jsonText]
  | .str s => textLines s
  | .arr [] => ["[]"]
  | .arr items => itemLines items
  | .obj [] => ["\x7b\x7d"]
  | .obj members => memberLines members

/-- The lines of the items of a list. -/
def itemLines : List Json → List String
  | [] => []
  | v :: rest => asItem v (lines v) ++ itemLines rest

/-- The lines of the members of an object. -/
def memberLines : List (String × Json) → List String
  | [] => []
  | (key, v) :: rest => asMember (lineText key) v (lines v) ++ memberLines rest

end

/-- A value as a document; every line ends with a line break. -/
def text (v : Json) : String :=
  String.join ((lines v).map (· ++ "\n"))

end IndexKeeper.Yaml
