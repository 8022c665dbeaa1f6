import IndexKeeper.Json.ReadError
import IndexKeeper.Json.Basic
import IndexKeeper.Text.Utf8

/-!
# Reading the parts of JSON

A cursor is the bytes still to be read and the place reached.  The readers of words, numbers and
quoted texts stand here; they read a part from the front and give the cursor after it, or the error
with its place.  Errors come in two places: after the bytes read (`fail`), and one byte further,
after the byte that was only looked at (`failAhead`).
-/

namespace IndexKeeper.Json

/-- The bytes still to be read and the place reached. -/
structure Cursor where
  rest : List UInt8
  line : Nat
  column : Nat

/-- The answer of a reader: what was read and the cursor after it. -/
abbrev Reading (α : Type) := Except ReadError (α × Cursor)

/-- A byte by its ASCII character. -/
def byte (c : Char) : UInt8 := UInt8.ofNat c.toNat

namespace Cursor

/-- The cursor at the start of a text. -/
def start (bytes : List UInt8) : Cursor := ⟨bytes, 1, 0⟩

/-- Read one byte, if there is one. -/
def advance (c : Cursor) : Cursor :=
  match c.rest with
  | [] => c
  | b :: rest => if b = byte '\n' then ⟨rest, c.line + 1, 0⟩ else ⟨rest, c.line, c.column + 1⟩

/-- Read some bytes, as far as there are any. -/
def advanceBy : Nat → Cursor → Cursor
  | 0, c => c
  | n + 1, c => advanceBy n c.advance

/-- The byte ahead. -/
def peek? (c : Cursor) : Option UInt8 := c.rest.head?

/-- An error after the bytes read. -/
def fail {α : Type} (c : Cursor) (problem : ReadProblem) : Except ReadError α :=
  .error ⟨problem, c.line, c.column⟩

/-- An error that counts the byte ahead. -/
def failAhead {α : Type} (c : Cursor) (problem : ReadProblem) : Except ReadError α :=
  c.advance.fail problem

/-- Blanks between the parts of JSON. -/
def isSpace (b : UInt8) : Bool :=
  b == byte ' ' || b == byte '\n' || b == byte '\t' || b == byte '\r'

/-- Pass over the bytes that a test holds of; gives how many. -/
def countWhile (test : UInt8 → Bool) (c : Cursor) : Nat :=
  (c.rest.takeWhile test).length

/-- Pass over blanks. -/
def skipSpace (c : Cursor) : Cursor := c.advanceBy (c.countWhile isSpace)

end Cursor

open Cursor

/-! ## Words -/

/-- Read the bytes of a word. -/
def readWord : List Char → Cursor → Reading Unit
  | [], c => .ok ((), c)
  | w :: word, c =>
    match c.peek? with
    | none => c.fail .endInValue
    | some b => if b = byte w then readWord word c.advance else c.advance.fail .wrongWord

/-! ## Numbers -/

/-- The value of a decimal digit. -/
def digit? (b : UInt8) : Option Nat :=
  if byte '0' ≤ b ∧ b ≤ byte '9' then some (b.toNat - 48) else none

/-- Whether a byte is a decimal digit. -/
def isDigit (b : UInt8) : Bool := (digit? b).isSome

/-- The digits ahead. -/
def digitsAhead (c : Cursor) : List Nat := (c.rest.takeWhile isDigit).filterMap digit?

/-- The greatest number that digits may add up to before further digits are only counted. -/
def maxSignificand : Nat := Nat.pow 2 64 - 1

/-- Append digits to a number while it stays within bounds; gives the number and how many digits
were appended. -/
def appendDigits (n : Nat) : List Nat → Nat × Nat
  | [] => (n, 0)
  | d :: rest =>
    if n * 10 + d ≤ maxSignificand then
      let (m, used) := appendDigits (n * 10 + d) rest
      (m, used + 1)
    else (n, 0)

/-- The double for the digits and exponent read so far. -/
def finishReal (negative : Bool) (digits : Nat) (exponent : Int) (c : Cursor) : Reading Number :=
  match Binary64.ofScientific? negative digits exponent with
  | some x => .ok (.real x, c)
  | none => c.fail .numberOutOfRange

/-- The greatest exponent that is read as a number. -/
def maxExponent : Nat := Nat.pow 2 31 - 1

/-- Read exponent digits onto a number.  At the digit that leaves the bounds the answer is
`none`, with the cursor after it. -/
def readExponentDigits (n : Nat) : List Nat → Cursor → Option Nat × Cursor
  | [], c => (some n, c)
  | d :: rest, c =>
    if n * 10 + d ≤ maxExponent then readExponentDigits (n * 10 + d) rest c.advance
    else (none, c.advance)

/-- Read an exponent from its letter on. -/
def readExponent (negative : Bool) (digits : Nat) (exponent : Int) (c : Cursor) :
    Reading Number :=
  let c := c.advance
  let down := c.peek? = some (byte '-')
  let c := if down ∨ c.peek? = some (byte '+') then c.advance else c
  match c.peek? with
  | none => c.fail .endInValue
  | some b =>
    if isDigit b then
      match readExponentDigits 0 (digitsAhead c) c with
      | (some n, c) => finishReal negative digits (if down then exponent - n else exponent + n) c
      | (none, c) =>
        if digits ≠ 0 ∧ ¬ down then c.fail .numberOutOfRange
        else .ok (.real (.zero negative), c.advanceBy (c.countWhile isDigit))
    else c.advance.fail .invalidNumber

/-- Whether the byte ahead starts an exponent. -/
def atExponent (c : Cursor) : Bool :=
  c.peek? == some (byte 'e') || c.peek? == some (byte 'E')

/-- Read a fraction from its point on.  Digits that leave the bounds are passed over. -/
def readFraction (negative : Bool) (digits : Nat) (exponent : Int) (c : Cursor) :
    Reading Number :=
  let c := c.advance
  match digitsAhead c with
  | [] => match c.peek? with
    | some _ => c.failAhead .invalidNumber
    | none => c.failAhead .endInValue
  | ds =>
    let (m, used) := appendDigits digits ds
    let c := c.advanceBy ds.length
    if atExponent c then readExponent negative m (exponent - used) c
    else finishReal negative m (exponent - used) c

/-- The integer of a sign and digits; minus zero and what is below the signed integers of 64 bits
are doubles. -/
def finishInteger (negative : Bool) (digits : Nat) (c : Cursor) : Reading Number :=
  if negative then
    if digits ≠ 0 ∧ digits ≤ Nat.pow 2 63 then .ok (.int (-digits), c)
    else finishReal true digits 0 c
  else .ok (.int digits, c)

/-- Read what follows the whole digits. -/
def readAfterWhole (negative : Bool) (digits dropped : Nat) (c : Cursor) : Reading Number :=
  if c.peek? = some (byte '.') then readFraction negative digits dropped c
  else if atExponent c then readExponent negative digits dropped c
  else if dropped = 0 then finishInteger negative digits c
  else finishReal negative digits dropped c

/-- Read a number after its sign. -/
def readNumber (negative : Bool) (c : Cursor) : Reading Number :=
  match digitsAhead c with
  | [] => match c.peek? with
    | none => c.fail .endInValue
    | some _ => c.advance.fail .invalidNumber
  | 0 :: more =>
    if more.isEmpty then readAfterWhole negative 0 0 c.advance
    else c.advance.failAhead .invalidNumber
  | ds =>
    let (m, used) := appendDigits 0 ds
    readAfterWhole negative m (ds.length - used) (c.advanceBy ds.length)

/-! ## Quoted texts -/

/-- The value of a hexadecimal digit of either case. -/
def hexDigit? (b : UInt8) : Option Nat :=
  if byte '0' ≤ b ∧ b ≤ byte '9' then some (b.toNat - 48)
  else if byte 'a' ≤ b ∧ b ≤ byte 'f' then some (b.toNat - 87)
  else if byte 'A' ≤ b ∧ b ≤ byte 'F' then some (b.toNat - 55)
  else none

/-- Read four hexadecimal digits. -/
def readHex (c : Cursor) : Reading Nat :=
  match c.rest with
  | b₁ :: b₂ :: b₃ :: b₄ :: _ =>
    let after := c.advanceBy 4
    match hexDigit? b₁, hexDigit? b₂, hexDigit? b₃, hexDigit? b₄ with
    | some d₁, some d₂, some d₃, some d₄ =>
      .ok (((d₁ * 16 + d₂) * 16 + d₃) * 16 + d₄, after)
    | _, _, _, _ => after.fail .invalidEscape
  | short => (c.advanceBy short.length).fail .endInText

/-- Read one given byte of a surrogate pair. -/
def readPairByte (b : UInt8) (c : Cursor) : Except ReadError Cursor :=
  match c.peek? with
  | none => c.fail .endInText
  | some a => if a = b then .ok c.advance else c.advance.fail .endOfHexEscape

/-- Read a character by its number, after the letter that announces it: one unit of 16 bits, or a
pair of surrogates. -/
def readUnitEscape (c : Cursor) : Except ReadError (Char × Cursor) := do
  let (n, c) ← readHex c
  if 0xDC00 ≤ n ∧ n ≤ 0xDFFF then c.fail .loneSurrogate
  else if n < 0xD800 ∨ 0xDBFF < n then return (Char.ofNat n, c)
  else
    let c ← readPairByte (byte '\\') c
    let c ← readPairByte (byte 'u') c
    let (m, c) ← readHex c
    if m < 0xDC00 ∨ 0xDFFF < m then c.fail .loneSurrogate
    else return (Char.ofNat (0x10000 + (n - 0xD800) * 0x400 + (m - 0xDC00)), c)

/-- The character that a letter after a backslash stands for. -/
def escapeLetter? (b : UInt8) : Option Char :=
  [('"', '"'), ('\\', '\\'), ('/', '/'), ('b', '\x08'), ('f', '\x0c'), ('n', '\n'), ('r', '\r'),
    ('t', '\t')].findSome? fun (letter, c) => if b = byte letter then some c else none

/-- Read an escape after its backslash. -/
def readEscape (c : Cursor) : Reading Char :=
  match c.peek? with
  | none => c.fail .endInText
  | some b =>
    if b = byte 'u' then readUnitEscape c.advance
    else match escapeLetter? b with
      | some ch => .ok (ch, c.advance)
      | none => c.advance.fail .invalidEscape

/-- Read the bytes of a quoted text up to and with its closing quote, the bytes read so far in
reverse. -/
def readTextBytes : Nat → List UInt8 → Cursor → Reading (List UInt8)
  | 0, _, c => c.fail .endInText
  | fuel + 1, acc, c =>
    match c.peek? with
    | none => c.fail .endInText
    | some b =>
      if b = byte '"' then .ok (acc.reverse, c.advance)
      else if b = byte '\\' then
        match readEscape c.advance with
        | .error e => .error e
        | .ok (ch, c) => readTextBytes fuel ((String.utf8EncodeChar ch).reverse ++ acc) c
      else if b < 0x20 then c.advance.fail .controlCharacter
      else readTextBytes fuel (b :: acc) c.advance

/-- Read the bytes of a quoted text after its opening quote, whether or not they are UTF-8. -/
def readRawText (c : Cursor) : Reading (List UInt8) :=
  readTextBytes (c.rest.length + 1) [] c

/-- Read a quoted text after its opening quote. -/
def readText (c : Cursor) : Reading String :=
  match readRawText c with
  | .error e => .error e
  | .ok (bytes, c) =>
    match Utf8.decode? bytes with
    | some s => .ok (s, c)
    | none => c.fail .invalidCodePoint

end IndexKeeper.Json
