import IndexKeeper.Text.Utf8
import IndexKeeper.Yaml.Fault

/-!
# Reading along a YAML text

The characters of a text, with every line break written in one way, and a cursor: the characters
still to be read and the place reached.  Control characters are refused before anything is read.
-/

namespace IndexKeeper.Yaml

/-! ## Characters -/

/-- Whether a text may hold a character. -/
def isAllowed (c : Char) : Bool :=
  c == '\t' || c == '\n' || c == '\r' || ('\x20' ≤ c && c ≤ '\x7E') || c == '\u0085' ||
    ('\u00A0' ≤ c && c.toNat != 0xFFFE && c.toNat != 0xFFFF)

/-- The characters with every line break as a line feed; the separators of lines and paragraphs
stay what they are. -/
def unifyBreaks : List Char → List Char
  | '\r' :: '\n' :: rest => '\n' :: unifyBreaks rest
  | '\r' :: rest | '\u0085' :: rest => '\n' :: unifyBreaks rest
  | c :: rest => c :: unifyBreaks rest
  | [] => []

/-- The characters of a text, if it may hold all of them. -/
def sourceOf (s : String) : Except Fault (List Char) :=
  match s.toList.dropWhile isAllowed with
  | [] => .ok (unifyBreaks s.toList)
  | _ =>
    .error (.forbiddenCharacter (Utf8.encode (String.ofList (s.toList.takeWhile isAllowed))).length)

/-- Whether a character ends a line. -/
def isBreak (c : Char) : Bool := c == '\n' || c == '\u2028' || c == '\u2029'

/-- Whether a character is a space or a tab. -/
def isSpace (c : Char) : Bool := c == ' ' || c == '\t'

/-- Whether a word ends before a character, or at the end of the text. -/
def endsWord : Option Char → Bool
  | none => true
  | some c => isSpace c || isBreak c

/-- Whether a line ends before a character, or at the end of the text. -/
def endsLine : Option Char → Bool
  | none => true
  | some c => isBreak c

/-- Whether a character is a space, a tab or ends a line. -/
def isGap (c : Char) : Bool := isSpace c || isBreak c

/-- Characters with which no unquoted text starts, some of them only before a space. -/
def indicators : List Char :=
  ['-', '?', ':', ',', '[', ']', '{', '}', '#', '&', '*', '!', '|', '>', '\x27', '"', '%', '@',
    '\x60']

/-- Whether a character ends words in a flow collection. -/
def isFlowIndicator (c : Char) : Bool := [',', '[', ']', '{', '}'].contains c

/-- Whether a character can stand in a name. -/
def isNameChar (c : Char) : Bool := c.isAlphanum || c == '_' || c == '-'

/-! ## Cursors -/

/-- The place after a character. -/
def Mark.after (m : Mark) (c : Char) : Mark :=
  if isBreak c then ⟨m.line + 1, 0⟩ else ⟨m.line, m.column + 1⟩

/-- The characters still to be read and the place reached. -/
structure Cursor where
  rest : List Char
  mark : Mark

/-- The answer of a reader: what was read and the cursor after it. -/
abbrev Reading (α : Type) := Except Fault (α × Cursor)

namespace Cursor

/-- The character ahead. -/
def peek? (c : Cursor) : Option Char := c.rest.head?

/-- The character after the one ahead. -/
def second? (c : Cursor) : Option Char := c.rest.tail.head?

/-- Whether the character ahead is a given one. -/
def isAt (c : Cursor) (x : Char) : Bool := c.peek? == some x

/-- Read one character, if there is one. -/
def advance (c : Cursor) : Cursor :=
  match c.rest with
  | [] => c
  | x :: rest => ⟨rest, c.mark.after x⟩

/-- Read some characters, as far as there are any. -/
def advanceBy : Nat → Cursor → Cursor
  | 0, c => c
  | n + 1, c => advanceBy n c.advance

/-- The characters ahead that a test holds of, and the cursor after them. -/
def span (test : Char → Bool) (c : Cursor) : List Char × Cursor :=
  let taken := c.rest.takeWhile test
  (taken, ⟨c.rest.dropWhile test, taken.foldl Mark.after c.mark⟩)

/-- Pass over the characters that a test holds of. -/
def skip (test : Char → Bool) (c : Cursor) : Cursor := (c.span test).2

/-- Pass over spaces and tabs. -/
def skipSpaces (c : Cursor) : Cursor := c.skip isSpace

/-- Pass over a comment, if one is ahead. -/
def skipComment (c : Cursor) : Cursor :=
  if c.isAt '#' then c.skip fun x => !isBreak x else c

/-- Pass over what may stand at the end of a line, and over its line break.  Nothing if something
else stands there. -/
def skipLineEnd? (c : Cursor) : Except Mark Cursor :=
  let c := c.skipSpaces.skipComment
  if endsLine c.peek? then .ok c.advance else .error c.mark

/-- Whether three characters that mark the start or the end of a document are ahead. -/
def atDocumentMark (c : Cursor) : Bool :=
  c.mark.column == 0 &&
    match c.rest with
    | '-' :: '-' :: '-' :: rest | '.' :: '.' :: '.' :: rest => endsWord rest.head?
    | _ => false

/-- A fault at the place reached. -/
def fail {α : Type} (c : Cursor) (context : Context) (began : Mark) (what : Problem) :
    Except Fault α :=
  .error (.within context began what c.mark)

end Cursor

namespace Cursor

/-- What a test takes and what it leaves make up what was ahead. -/
theorem append_span (test : Char → Bool) (c : Cursor) :
    (c.span test).1 ++ (c.span test).2.rest = c.rest :=
  List.takeWhile_append_dropWhile

theorem rest_advance (c : Cursor) : c.advance.rest = c.rest.tail := by
  unfold advance
  split <;> simp_all

theorem rest_advanceBy (n : Nat) (c : Cursor) : (advanceBy n c).rest = c.rest.drop n := by
  induction n generalizing c with
  | zero => rfl
  | succ n ih => simp [advanceBy, ih, rest_advance]

theorem length_span (test : Char → Bool) (c : Cursor) :
    (c.span test).1.length + (c.span test).2.rest.length = c.rest.length := by
  rw [← List.length_append, append_span]

end Cursor

end IndexKeeper.Yaml
