import IndexKeeper.Yaml.Block
import IndexKeeper.Yaml.Quoted
import IndexKeeper.Yaml.Tag

/-!
# From a YAML text to its tokens

The tokens of a text in order.  Whether a token is the key of a mapping shows only when a colon
follows it in its line, and then the tokens that say so belong in front of it; until that is settled
the token and what follows it wait.  The tokens that a fault leaves waiting are never seen.
-/

namespace IndexKeeper.Yaml

/-- A token that is the key of a mapping if a colon follows it. -/
structure PossibleKey where
  /-- How many waiting tokens stand before it. -/
  position : Nat
  mark : Mark
  /-- Whether nothing else than a key can stand in its place. -/
  isRequired : Bool

/-- The state of reading tokens. -/
structure Lexer where
  cursor : Cursor
  /-- The tokens read and not yet given out. -/
  waiting : List Token := []
  /-- The possible key among the tokens of the innermost collection. -/
  key? : Option PossibleKey := none
  /-- The possible keys around each flow collection that is open, the innermost first. -/
  outerKeys : List (Option PossibleKey) := []
  /-- Whether the next token can be a key. -/
  isKeyAllowed : Bool := true
  /-- The columns of the block collections that are open, the innermost first. -/
  columns : List Nat := []

namespace Lexer

/-- Whether a flow collection is open. -/
def inFlow (l : Lexer) : Bool := !l.outerKeys.isEmpty

/-- The first column that is inside the innermost block collection. -/
def innerColumn (l : Lexer) : Nat := l.columns.head?.elim 0 (· + 1)

/-- Add a token at a place. -/
def emitAt (l : Lexer) (kind : TokenKind) (mark : Mark) : Lexer :=
  { l with waiting := l.waiting ++ [⟨kind, mark⟩] }

/-- Add a token of some characters at the place reached. -/
def emitSign (l : Lexer) (kind : TokenKind) (length : Nat) : Lexer :=
  { l.emitAt kind l.cursor.mark with cursor := l.cursor.advanceBy length }

/-- Add a token that has been read from the place reached. -/
def emitRead (l : Lexer) (read : TokenKind × Cursor) : Lexer :=
  { l.emitAt read.1 l.cursor.mark with cursor := read.2 }

/-- The fault of a problem at the place reached. -/
def fail {α : Type} (l : Lexer) (what : Problem) : Except Fault α :=
  .error (.problem what l.cursor.mark none)

/-! ## Possible keys -/

/-- The fault that a key is not followed by a colon. -/
def failKey {α : Type} (l : Lexer) (key : PossibleKey) : Except Fault α :=
  l.cursor.fail .simpleKey key.mark .noColon

/-- Settle that the possible key of the innermost collection is none. -/
def dropKey (l : Lexer) : Except Fault Lexer :=
  match l.key? with
  | some key => if key.isRequired then l.failKey key else .ok { l with key? := none }
  | none => .ok l

/-- Note that the next token can be a key. -/
def offerKey (l : Lexer) : Except Fault Lexer :=
  if l.isKeyAllowed then
    l.dropKey.map fun l =>
      let isRequired := !l.inFlow && l.columns.head? == some l.cursor.mark.column
      { l with key? := some ⟨l.waiting.length, l.cursor.mark, isRequired⟩ }
  else .ok l

/-- The greatest number of columns that a key can have. -/
def maxKeyWidth : Nat := 1024

/-- Whether a colon would come too late for a key. -/
def isPast (l : Lexer) (key : PossibleKey) : Bool :=
  key.mark.line < l.cursor.mark.line || key.mark.column + maxKeyWidth < l.cursor.mark.column

/-- Settle that every possible key that a colon would come too late for is none. -/
def dropPastKeys (l : Lexer) : Except Fault Lexer :=
  match ((l.key? :: l.outerKeys).filterMap id).find? fun key => key.isRequired && l.isPast key with
  | some key => l.failKey key
  | none =>
    .ok { l with
      key? := l.key?.filter (!l.isPast ·)
      outerKeys := l.outerKeys.map (·.filter (!l.isPast ·)) }

/-- The waiting tokens that stand before every possible key, and the state without them. -/
def release (l : Lexer) : List Token × Lexer :=
  let keys := (l.key? :: l.outerKeys).filterMap id
  let ready := keys.foldl (fun n key => min n key.position) l.waiting.length
  let shifted (key : PossibleKey) : PossibleKey := { key with position := key.position - ready }
  (l.waiting.take ready,
    { l with
      waiting := l.waiting.drop ready
      key? := l.key?.map shifted
      outerKeys := l.outerKeys.map (·.map shifted) })

/-! ## Block collections -/

/-- Open a block collection at a place, in front of the waiting tokens from some position on, if it
stands further in than the one that is open. -/
def openBlock (l : Lexer) (kind : TokenKind) (mark : Mark) (position : Nat) : Lexer :=
  if !l.inFlow && l.innerColumn ≤ mark.column then
    { l with
      columns := mark.column :: l.columns
      waiting := l.waiting.insertIdx position ⟨kind, mark⟩ }
  else l

/-- Close the block collections in which the place reached is not, by their columns. -/
def closeBlocks (l : Lexer) (isLeft : Nat → Bool) : Lexer :=
  if l.inFlow then l
  else
    let left := l.columns.takeWhile isLeft
    { l with
      columns := l.columns.drop left.length
      waiting := l.waiting ++ left.map fun _ => ⟨.blockEnd, l.cursor.mark⟩ }

/-- Open a block collection at the place reached, where one of its parts starts. -/
def openHere (l : Lexer) (kind : TokenKind) (notAllowed : Problem) : Except Fault Lexer :=
  if l.inFlow then .ok l
  else if l.isKeyAllowed then .ok (l.openBlock kind l.cursor.mark l.waiting.length)
  else l.fail notAllowed

/-! ## Tokens -/

/-- End every block collection, at the start of a document, of a directive, or at the end. -/
def endBlocks (l : Lexer) : Except Fault Lexer :=
  (l.closeBlocks fun _ => true).dropKey.map ({ · with isKeyAllowed := false })

/-- Read the start of a flow collection. -/
def readFlowStart (l : Lexer) (kind : TokenKind) : Except Fault Lexer :=
  l.offerKey.map fun l =>
    { l.emitSign kind 1 with
      key? := none, outerKeys := l.key? :: l.outerKeys, isKeyAllowed := true }

/-- Read the end of a flow collection. -/
def readFlowEnd (l : Lexer) (kind : TokenKind) : Except Fault Lexer :=
  l.dropKey.map fun l =>
    { l.emitSign kind 1 with
      key? := l.outerKeys.head?.join, outerKeys := l.outerKeys.tail, isKeyAllowed := false }

/-- Read the sign in front of an entry or of a key. -/
def readOpening (l : Lexer) (kind collection : TokenKind) (notAllowed : Problem) (allows : Bool) :
    Except Fault Lexer := do
  let l ← l.openHere collection notAllowed
  let l ← l.dropKey
  return { l.emitSign kind 1 with isKeyAllowed := allows }

/-- Read a colon: the possible key is a key, or the key is left out. -/
def readValue (l : Lexer) : Except Fault Lexer :=
  match l.key? with
  | some key =>
    let l := { l with waiting := l.waiting.insertIdx key.position ⟨.key, key.mark⟩ }
    let l := l.openBlock .blockMappingStart key.mark key.position
    .ok { l.emitSign .value 1 with key? := none, isKeyAllowed := false }
  | none =>
    (l.openHere .blockMappingStart .valueNotAllowed).map fun l =>
      { l.emitSign .value 1 with isKeyAllowed := !l.inFlow }

/-- Read a token that can be a key. -/
def readKeyable (l : Lexer) (read : Except Fault (TokenKind × Cursor)) : Except Fault Lexer := do
  let l ← l.offerKey
  let found ← read
  return { l.emitRead found with isKeyAllowed := false }

/-- Read an unquoted scalar. -/
def readPlainScalar (l : Lexer) : Except Fault Lexer := do
  let l ← l.offerKey
  let (found, after) ← readPlain l.inFlow l.innerColumn l.cursor
  return { l.emitRead (.scalar (String.ofList found.text) true, after) with
    isKeyAllowed := found.endedLine }

/-- Read a block scalar. -/
def readBlockScalar (l : Lexer) (isLiteral : Bool) : Except Fault Lexer := do
  let l ← l.dropKey
  let (text, after) ← readBlock isLiteral l.columns.head? l.cursor
  return { l.emitRead (.scalar (String.ofList text) false, after) with isKeyAllowed := true }

/-- A scalar in quotes as a token. -/
def quotedToken (isDouble : Bool) (c : Cursor) : Except Fault (TokenKind × Cursor) :=
  (readQuoted isDouble c).map fun (text, after) => (.scalar (String.ofList text) false, after)

/-- A name as a token. -/
def nameToken (context : Context) (kind : String → TokenKind) (c : Cursor) :
    Except Fault (TokenKind × Cursor) :=
  (readName context c).map fun (name, after) => (kind name, after)

/-- Read the mark of a document, or a directive, at the start of a line. -/
def readAtLineStart (l : Lexer) : Except Fault Lexer := do
  let l ← l.endBlocks
  if l.cursor.isAt '%' then return l.emitRead (← readDirective l.cursor)
  else return l.emitSign (if l.cursor.isAt '-' then .documentStart else .documentEnd) 3

/-- Whether an unquoted scalar starts at the place reached. -/
def isAtPlain (l : Lexer) : Bool :=
  match l.cursor.peek? with
  | none => false
  | some x =>
    !(isGap x || indicators.contains x) || x == '-' || (!l.inFlow && (x == '?' || x == ':'))

/-- Read the token that starts at the place reached. -/
def readToken (l : Lexer) : Except Fault Lexer :=
  let c := l.cursor
  if c.atDocumentMark || (c.mark.column == 0 && c.isAt '%') then l.readAtLineStart
  else
    let isSign := endsWord c.second?
    match c.peek? with
    | some '[' => l.readFlowStart .flowSequenceStart
    | some '{' => l.readFlowStart .flowMappingStart
    | some ']' => l.readFlowEnd .flowSequenceEnd
    | some '}' => l.readFlowEnd .flowMappingEnd
    | some ',' => l.dropKey.map fun l => { l.emitSign .flowEntry 1 with isKeyAllowed := true }
    | some '*' => l.readKeyable (nameToken .alias_ .alias_ c)
    | some '&' => l.readKeyable (nameToken .anchor .anchor c)
    | some '!' => l.readKeyable (readTag l.inFlow c)
    | some '\x27' => l.readKeyable (quotedToken false c)
    | some '"' => l.readKeyable (quotedToken true c)
    | some x =>
      if x == '-' && isSign then
        l.readOpening .blockEntry .blockSequenceStart .entryNotAllowed true
      else if x == '?' && (l.inFlow || isSign) then
        l.readOpening .key .blockMappingStart .keyNotAllowed (!l.inFlow)
      else if x == ':' && (l.inFlow || isSign) then l.readValue
      else if !l.inFlow && (x == '|' || x == '>') then l.readBlockScalar (x == '|')
      else if l.isAtPlain then l.readPlainScalar
      else c.fail .nextToken c.mark .strayCharacter
    | none => .ok l

/-- Pass over blanks, comments and line ends; a token that starts on a new line can be a key.  Each
of the given number of rounds passes over a line. -/
def skipToToken : Nat → Lexer → Lexer
  | 0, l => l
  | rounds + 1, l =>
    let c := if l.cursor.mark.column == 0 && l.cursor.isAt '\uFEFF' then l.cursor.advance
      else l.cursor
    let c := (c.skip fun x => x == ' ' || (x == '\t' && (l.inFlow || !l.isKeyAllowed))).skipComment
    if c.peek?.any isBreak then
      skipToToken rounds
        { l with cursor := c.advance, isKeyAllowed := l.isKeyAllowed || !l.inFlow }
    else { l with cursor := c }

/-- Pass to the next token, and settle what its place settles. -/
def settle (l : Lexer) : Except Fault Lexer :=
  (skipToToken (l.cursor.rest.length + 1) l).dropPastKeys.map fun l =>
    l.closeBlocks (l.cursor.mark.column < ·)

/-- End the text; what was on its last line is past. -/
def finish (l : Lexer) : Except Fault Lexer := do
  let m := l.cursor.mark
  let l := { l with cursor.mark := if m.column = 0 then m else ⟨m.line + 1, 0⟩ }
  let l ← l.endBlocks
  l.dropPastKeys

/-- The tokens from the place reached on. -/
def tokens (l : Lexer) : Tokens :=
  match l.settle with
  | .error fault => ⟨[], .error fault⟩
  | .ok settled =>
    if settled.cursor.rest.isEmpty then
      match settled.finish with
      | .error fault => ⟨[], .error fault⟩
      | .ok last => ⟨last.waiting, .ok last.cursor.mark⟩
    else
      match settled.readToken.bind dropPastKeys with
      | .error fault => ⟨[], .error fault⟩
      | .ok next =>
        let (ready, next) := next.release
        if next.cursor.rest.length < l.cursor.rest.length then
          let more := tokens next
          { more with list := ready ++ more.list }
        else ⟨ready, .ok next.cursor.mark⟩
termination_by l.cursor.rest.length

end Lexer

/-- The tokens of a text. -/
def Tokens.ofText (s : String) : Tokens :=
  match sourceOf s with
  | .error fault => ⟨[], .error fault⟩
  | .ok cs => Lexer.tokens { cursor := ⟨cs, .start⟩ }

end IndexKeeper.Yaml
