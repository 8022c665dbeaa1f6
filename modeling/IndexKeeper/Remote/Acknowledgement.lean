import IndexKeeper.Json.Described
import IndexKeeper.Json.Reader

/-!
# Acknowledgements

The body with which a cluster confirms a change: an object whose field `acknowledged` is a truth
value, false where the field is absent.  An array stands for the object with its fields in order.
Other fields are passed over without being kept, so they may nest to any depth and their texts need
not be UTF-8; a field given twice and a value of another type are errors.
-/

namespace IndexKeeper.Acknowledgement

open Json

/-! ## Values of another type -/

/-- The error for a value that should be something else.  Arrays and objects are not read. -/
def refuse {α : Type} (expected : String) (c : Cursor) : Except ReadError α :=
  let refused (found : Json) (c : Cursor) : Except ReadError α :=
    c.fail (.wrongType found.describe expected)
  match c.peek? with
  | none => c.failAhead .noValue
  | some b =>
    if b = byte 'n' then do
      let (_, c) ← readWord "ull".toList c.advance
      refused .null c
    else if b = byte 't' then do
      let (_, c) ← readWord "rue".toList c.advance
      refused (.bool true) c
    else if b = byte 'f' then do
      let (_, c) ← readWord "alse".toList c.advance
      refused (.bool false) c
    else if b = byte '-' then do
      let (n, c) ← readNumber true c.advance
      refused (.num n) c
    else if isDigit b then do
      let (n, c) ← readNumber false c
      refused (.num n) c
    else if b = byte '"' then do
      let (s, c) ← readText c.advance
      refused (.str s) c
    else if b = byte '[' then refused (.arr []) c
    else if b = byte '{' then refused (.obj []) c
    else c.failAhead .noValue

/-- Read a truth value. -/
def readBool (c : Cursor) : Reading Bool :=
  let c := c.skipSpace
  match c.peek? with
  | none => c.failAhead .endInValue
  | some b =>
    if b = byte 't' then (readWord "rue".toList c.advance).map fun r => (true, r.2)
    else if b = byte 'f' then (readWord "alse".toList c.advance).map fun r => (false, r.2)
    else refuse "a boolean" c

/-! ## Passing over values -/

/-- Pass over the digits ahead. -/
def skipDigits (c : Cursor) : Cursor := c.advanceBy (c.countWhile isDigit)

/-- Pass over an exponent from its letter on. -/
def skipExponent (c : Cursor) : Except ReadError Cursor :=
  let c := c.advance
  let c := if c.peek? = some (byte '+') ∨ c.peek? = some (byte '-') then c.advance else c
  if c.peek?.any isDigit then .ok (skipDigits c) else c.advance.fail .invalidNumber

/-- Pass over a fraction from its point on. -/
def skipFraction (c : Cursor) : Except ReadError Cursor :=
  let c := c.advance
  if c.peek?.any isDigit then
    let c := skipDigits c
    if atExponent c then skipExponent c else .ok c
  else c.failAhead .invalidNumber

/-- Pass over a number after its sign. -/
def skipNumber (c : Cursor) : Except ReadError Cursor :=
  let afterWhole (c : Cursor) : Except ReadError Cursor :=
    if c.peek? = some (byte '.') then skipFraction c
    else if atExponent c then skipExponent c
    else .ok c
  if c.peek? = some (byte '0') then
    let c := c.advance
    if c.peek?.any isDigit then c.failAhead .invalidNumber else afterWhole c
  else if c.peek?.any isDigit then afterWhole (skipDigits c)
  else c.advance.fail .invalidNumber

/-- Pass over the letter of an escape, and the digits after it if it announces some. -/
def skipEscape (c : Cursor) : Except ReadError Cursor :=
  match c.peek? with
  | none => c.fail .endInText
  | some b =>
    if b = byte 'u' then (readHex c.advance).map Prod.snd
    else if (escapeLetter? b).isSome then .ok c.advance
    else c.advance.fail .invalidEscape

/-- Pass over the bytes of a quoted text up to and with its closing quote. -/
def skipTextBytes : Nat → Cursor → Except ReadError Cursor
  | 0, c => c.fail .endInText
  | fuel + 1, c =>
    match c.peek? with
    | none => c.fail .endInText
    | some b =>
      if b = byte '"' then .ok c.advance
      else if b = byte '\\' then
        match skipEscape c.advance with
        | .error e => .error e
        | .ok c => skipTextBytes fuel c
      else if b < 0x20 then c.fail .controlCharacter
      else skipTextBytes fuel c.advance

/-- Pass over a quoted text after its opening quote. -/
def skipText (c : Cursor) : Except ReadError Cursor :=
  skipTextBytes (c.rest.length + 1) c

/-- What encloses a value that is passed over. -/
inductive Enclosure
  | list
  | object
  deriving DecidableEq

namespace Enclosure

/-- The byte that ends an enclosure. -/
def close : Enclosure → UInt8
  | list => byte ']'
  | object => byte '}'

/-- The problem of an end of input in an enclosure. -/
def atEnd : Enclosure → ReadProblem
  | list => .endInList
  | object => .endInObject

/-- The problem of something else than a comma or the end of an enclosure. -/
def unended : Enclosure → ReadProblem
  | list => .noItemEnd
  | object => .noMemberEnd

end Enclosure

/-- Pass over a key and its colon. -/
def skipKey (c : Cursor) : Except ReadError Cursor :=
  let c := c.skipSpace
  match c.peek? with
  | none => c.failAhead .endInObject
  | some b =>
    if b = byte '"' then
      match skipText c.advance with
      | .error e => .error e
      | .ok c => readColon c
    else c.failAhead .keyNotText

mutual

/-- Pass over a value within enclosures, and then out of all of them. -/
def skipValue : Nat → List Enclosure → Cursor → Except ReadError Cursor
  | 0, _, c => c.fail .tooDeep
  | fuel + 1, within, c =>
    let c := c.skipSpace
    let leave (skipped : Except ReadError Cursor) : Except ReadError Cursor :=
      match skipped with
      | .error e => .error e
      | .ok c => skipRest fuel within true c
    match c.peek? with
    | none => c.failAhead .endInValue
    | some b =>
      if b = byte 'n' then leave ((readWord "ull".toList c.advance).map Prod.snd)
      else if b = byte 't' then leave ((readWord "rue".toList c.advance).map Prod.snd)
      else if b = byte 'f' then leave ((readWord "alse".toList c.advance).map Prod.snd)
      else if b = byte '-' then leave (skipNumber c.advance)
      else if isDigit b then leave (skipNumber c)
      else if b = byte '"' then leave (skipText c.advance)
      else if b = byte '[' then skipRest fuel (.list :: within) false c.advance
      else if b = byte '{' then skipRest fuel (.object :: within) false c.advance
      else c.failAhead .noValue

/-- Pass over what is left of the enclosures, after a value or after an opening bracket. -/
def skipRest : Nat → List Enclosure → Bool → Cursor → Except ReadError Cursor
  | 0, _, _, c => c.fail .tooDeep
  | _ + 1, [], _, c => .ok c
  | fuel + 1, e :: within, afterValue, c =>
    let c := c.skipSpace
    let enter (c : Cursor) : Except ReadError Cursor :=
      match e with
      | .list => skipValue fuel (e :: within) c
      | .object =>
        match skipKey c with
        | .error problem => .error problem
        | .ok c => skipValue fuel (e :: within) c
    match c.peek? with
    | none => c.failAhead e.atEnd
    | some b =>
      if b = byte ',' && afterValue then enter c.advance
      else if b = e.close then skipRest fuel within true c.advance
      else if afterValue then c.failAhead e.unended
      else enter c

end

/-- Pass over one value. -/
def skip (c : Cursor) : Except ReadError Cursor := skipValue (stepBound c + 1) [] c

/-! ## The record -/

/-- The field that counts. -/
def field : String := "acknowledged"

/-- What a body of another type is told to be. -/
def expected : String := "struct Acknowledged"

/-- Read the members of the record up to and with its closing brace. -/
def readMembers : Nat → Bool → Option Bool → Cursor → Reading Bool
  | 0, _, _, c => c.fail .tooDeep
  | fuel + 1, first, value, c =>
    match readMemberStart first c with
    | .error e => .error e
    | .ok (false, c) => .ok (value.getD false, c.advance)
    | .ok (true, c) =>
      match readText c.advance with
      | .error e => .error e
      | .ok (key, c) =>
        if key = field then
          if value.isSome then c.fail (.duplicateField field)
          else match readColon c with
            | .error e => .error e
            | .ok c =>
              match readBool c with
              | .error e => .error e
              | .ok (b, c) => readMembers fuel false (some b) c
        else match readColon c with
          | .error e => .error e
          | .ok c =>
            match skip c with
            | .error e => .error e
            | .ok c => readMembers fuel false value c

/-- Read the closing bracket after the field of a record written as an array. -/
def readItemsEnd (c : Cursor) : Except ReadError Cursor :=
  let c := c.skipSpace
  match c.peek? with
  | none => c.failAhead .endInList
  | some b =>
    if b = byte ']' then .ok c.advance
    else if b = byte ',' then
      let c := c.advance.skipSpace
      if c.peek? = some (byte ']') then c.failAhead .trailingComma
      else c.failAhead .trailingCharacters
    else c.failAhead .trailingCharacters

/-- Read the fields of a record written as an array. -/
def readItems (c : Cursor) : Reading Bool :=
  match readItemStart true c with
  | .error e => .error e
  | .ok (false, c) => (readItemsEnd c).map fun c => (false, c)
  | .ok (true, c) =>
    match readBool c with
    | .error e => .error e
    | .ok (b, c) => (readItemsEnd c).map fun c => (b, c)

/-- Read the record. -/
def readRecord (c : Cursor) : Reading Bool :=
  let c := c.skipSpace
  match c.peek? with
  | none => c.failAhead .endInValue
  | some b =>
    if b = byte '{' then readMembers (c.rest.length + 1) true none c.advance
    else if b = byte '[' then readItems c.advance
    else refuse expected c

/-- Whether a body confirms a change. -/
def read (bytes : List UInt8) : Except ReadError Bool :=
  match readRecord (Cursor.start bytes) with
  | .error e => .error e
  | .ok (b, c) => (readEnd c).map fun _ => b

end IndexKeeper.Acknowledgement
