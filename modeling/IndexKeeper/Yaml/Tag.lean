import IndexKeeper.Text.Digits
import IndexKeeper.Yaml.Cursor
import IndexKeeper.Yaml.Token

/-!
# Names and tags

The name of an anchor or an alias, and the tag of a node: in full between `!<` and `>`, or a handle
between exclamation marks with the rest of the tag.  Characters of a tag may be given by the bytes
of their UTF-8 form.
-/

namespace IndexKeeper.Yaml

/-- The name ahead, of an anchor or of an alias, with the character that marks it in front. -/
def readName (context : Context) (c : Cursor) : Reading String :=
  let (name, after) := c.advance.span isNameChar
  let ends := endsWord after.peek? ||
    after.peek?.any ['?', ':', ',', ']', '}', '%', '@', '\x60'].contains
  if name.isEmpty || !ends then after.fail context c.mark .noName
  else .ok (String.ofList name, after)

/-! ## The text of a tag -/

/-- Whether a character can stand in a tag.  The signs of flow collections can stand in a tag given
in full only. -/
def isTagChar (inFull : Bool) (c : Char) : Bool :=
  isNameChar c || [';', '/', '?', ':', '@', '&', '=', '+', '$', '.', '%', '!', '~', '*', '\x27',
    '(', ')'].contains c || (inFull && [',', '[', ']'].contains c)

/-- How many bytes the character has that starts with a byte. -/
def utf8Width? (byte : Nat) : Option Nat :=
  if byte < 0x80 then some 1
  else if byte / 0x20 = 6 then some 2
  else if byte / 0x10 = 14 then some 3
  else if byte / 0x08 = 30 then some 4
  else none

/-- The byte that a percent sign and two digits ahead give. -/
def readByte (context : Context) (began : Mark) (c : Cursor) : Reading Nat :=
  match c.rest with
  | '%' :: a :: b :: _ =>
    match digitsValue? 16 [a, b] with
    | some n => .ok (n, c.advanceBy 3)
    | none => c.fail context began .noOctet
  | _ => c.fail context began .noOctet

/-- Some bytes that go on with a character, each given by a percent sign and two digits. -/
def readMoreBytes (context : Context) (began : Mark) :
    Nat → Cursor → Except Fault (List Nat × Cursor)
  | 0, c => .ok ([], c)
  | n + 1, c => do
    let (byte, after) ← readByte context began c
    if byte / 0x40 ≠ 2 then c.fail context began .trailingOctet
    let (more, last) ← readMoreBytes context began n after
    return (byte :: more, last)

/-- A character given by its bytes. -/
def readTagEscape (context : Context) (began : Mark) (c : Cursor) :
    Except Fault (String × Cursor) := do
  let (byte, after) ← readByte context began c
  match utf8Width? byte with
  | none => c.fail context began .leadingOctet
  | some width =>
    let (more, last) ← readMoreBytes context began (width - 1) after
    return (Utf8.decodeLossy ((byte :: more).map Nat.toUInt8), last)

/-- The text of a tag as far as it goes, and the cursor after it.  Each of the given number of
rounds reads a character. -/
def readTagChars (inFull : Bool) (context : Context) (began : Mark) :
    Nat → Cursor → Except Fault (List Char × Cursor)
  | 0, c => .ok ([], c)
  | rounds + 1, c =>
    match c.peek? with
    | none => .ok ([], c)
    | some x =>
      if !isTagChar inFull x then .ok ([], c)
      else do
        let (text, after) ← if x == '%' then readTagEscape context began c
          else .ok (x.toString, c.advance)
        let (more, last) ← readTagChars inFull context began rounds after
        return (text.toList ++ more, last)

/-- The text of a tag, which may not be empty where nothing of it stands in front. -/
def readTagText (inFull : Bool) (context : Context) (began : Mark) (isStarted : Bool)
    (c : Cursor) : Except Fault (List Char × Cursor) := do
  let (text, after) ← readTagChars inFull context began c.rest.length c
  if text.isEmpty && !isStarted then after.fail context began .noUri
  return (text, after)

/-! ## Tags -/

/-- The handle ahead: an exclamation mark, a name, and the second exclamation mark, if there is
one.  In a directive a name must be followed by it. -/
def readHandle (inDirective : Bool) (began : Mark) (c : Cursor) :
    Except Fault (List Char × Cursor) :=
  if !c.isAt '!' then
    c.fail (if inDirective then .tagDirectiveOpening else .tag) began .noExclamation
  else
    let (name, after) := c.advance.span isNameChar
    if after.isAt '!' then .ok ('!' :: name ++ ['!'], after.advance)
    else if inDirective && !name.isEmpty then
      after.fail .tagDirectiveHandle began .noExclamation
    else .ok ('!' :: name, after)

/-- The handle and the rest of the tag ahead.  The handle is empty where a tag is given in full and
where it is a lone exclamation mark. -/
def readTagParts (began : Mark) (c : Cursor) : Except Fault ((String × String) × Cursor) := do
  if c.second? == some '<' then
    let (text, after) ← readTagText true .tagUri began false (c.advanceBy 2)
    if !after.isAt '>' then after.fail .tag began .noTagEnd
    return (("", String.ofList text), after.advance)
  else
    let (handle, after) ← readHandle false began c
    if 1 < handle.length && handle.getLast? == some '!' then
      let (text, after) ← readTagText false .tagUri began false after
      return ((String.ofList handle, String.ofList text), after)
    else
      let (text, after) ← readTagText false .tagUri began true after
      match handle.tail ++ text with
      | [] => return (("", "!"), after)
      | ending => return (("!", String.ofList ending), after)

/-- The tag ahead. -/
def readTag (inFlow : Bool) (c : Cursor) : Except Fault (TokenKind × Cursor) := do
  let ((handle, ending), after) ← readTagParts c.mark c
  if endsWord after.peek? || (inFlow && after.isAt ',') then return (.tag handle ending, after)
  else after.fail .tag c.mark .noSpaceOrBreak

/-! ## Directives -/

/-- A number of a version. -/
def readVersionNumber (began : Mark) (c : Cursor) : Except Fault (Nat × Cursor) :=
  let (digits, after) := c.span Char.isDigit
  if 9 < digits.length then (c.advanceBy 9).fail .versionDirective began .longVersion
  else match numeral? 10 digits with
    | some n => .ok (n, after)
    | none => c.fail .versionDirective began .noVersion

/-- What a directive with a name says. -/
def readDirectiveValue (began : Mark) (name : String) (c : Cursor) :
    Except Fault (TokenKind × Cursor) := do
  if name = "YAML" then
    let (major, after) ← readVersionNumber began c.skipSpaces
    if !after.isAt '.' then after.fail .versionDirective began .noVersionPoint
    let (minor, after) ← readVersionNumber began after.advance
    return (.versionDirective major minor, after)
  else if name = "TAG" then
    let (handle, after) ← readHandle true began c.skipSpaces
    if !after.peek?.any isSpace then after.fail .tagDirective began .noSpace
    let (meaning, after) ← readTagText true .tagDirectiveUri began false after.skipSpaces
    if !endsWord after.peek? then after.fail .tagDirective began .noSpaceOrBreak
    return (.tagDirective (String.ofList handle) (String.ofList meaning), after)
  else c.fail .directive began .unknownDirective

/-- The directive ahead, with the percent sign in front. -/
def readDirective (c : Cursor) : Except Fault (TokenKind × Cursor) := do
  let (name, after) := c.advance.span isNameChar
  if name.isEmpty then after.fail .directive c.mark .noDirectiveName
  if !endsWord after.peek? then after.fail .directive c.mark .directiveNameEnd
  let (kind, after) ← readDirectiveValue c.mark (String.ofList name) after
  match after.skipLineEnd? with
  | .ok after => return (kind, after)
  | .error place => .error (.within .directive c.mark .noLineEnd place)

end IndexKeeper.Yaml
