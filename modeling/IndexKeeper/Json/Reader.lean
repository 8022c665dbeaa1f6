import IndexKeeper.Json.Cursor

/-!
# Reading JSON

`Json.read` reads one value from bytes, with nothing but blanks around it.  Arrays and objects may
nest up to `maxDepth` levels.  Of members under one key the last counts.
-/

namespace IndexKeeper.Json

open Cursor

/-- How deep arrays and objects may nest. -/
def maxDepth : Nat := 127

/-- Whether another item follows in an array, after `first` or more items.  The cursor is at the
item, or at the bracket that ends the array. -/
def readItemStart (first : Bool) (c : Cursor) : Reading Bool :=
  let c := c.skipSpace
  match c.peek? with
  | none => c.failAhead .endInList
  | some b =>
    if b = byte ']' then .ok (false, c)
    else if first then .ok (true, c)
    else if b = byte ',' then
      let c := c.advance.skipSpace
      match c.peek? with
      | none => c.failAhead .endInValue
      | some b => if b = byte ']' then c.failAhead .trailingComma else .ok (true, c)
    else c.failAhead .noItemEnd

/-- Whether another member follows in an object.  The cursor is at the quote of its key, or at the
brace that ends the object. -/
def readMemberStart (first : Bool) (c : Cursor) : Reading Bool :=
  let c := c.skipSpace
  match c.peek? with
  | none => c.failAhead .endInObject
  | some b =>
    if b = byte '}' then .ok (false, c)
    else if first then
      if b = byte '"' then .ok (true, c) else c.failAhead .keyNotText
    else if b = byte ',' then
      let c := c.advance.skipSpace
      match c.peek? with
      | none => c.failAhead .endInValue
      | some b =>
        if b = byte '"' then .ok (true, c)
        else if b = byte '}' then c.failAhead .trailingComma
        else c.failAhead .keyNotText
    else c.failAhead .noMemberEnd

/-- Read the colon after a key. -/
def readColon (c : Cursor) : Except ReadError Cursor :=
  let c := c.skipSpace
  match c.peek? with
  | none => c.failAhead .endInObject
  | some b => if b = byte ':' then .ok c.advance else c.failAhead .noColon

mutual

/-- Read a value; `depth` is how many levels of nesting are left. -/
def readValue : Nat → Nat → Cursor → Reading Json
  | 0, _, c => c.fail .tooDeep
  | fuel + 1, depth, c =>
    let c := c.skipSpace
    match c.peek? with
    | none => c.failAhead .endInValue
    | some b =>
      if b = byte 'n' then (readWord "ull".toList c.advance).map fun r => (null, r.2)
      else if b = byte 't' then (readWord "rue".toList c.advance).map fun r => (bool true, r.2)
      else if b = byte 'f' then (readWord "alse".toList c.advance).map fun r => (bool false, r.2)
      else if b = byte '-' then (readNumber true c.advance).map fun r => (num r.1, r.2)
      else if isDigit b then (readNumber false c).map fun r => (num r.1, r.2)
      else if b = byte '"' then (readText c.advance).map fun r => (str r.1, r.2)
      else if b = byte '[' then
        match depth with
        | 0 => c.failAhead .tooDeep
        | depth + 1 => (readItems fuel depth true c.advance).map fun r => (arr r.1, r.2)
      else if b = byte '{' then
        match depth with
        | 0 => c.failAhead .tooDeep
        | depth + 1 =>
          (readMembers fuel depth true [] c.advance).map fun r => (obj r.1, r.2)
      else c.failAhead .noValue

/-- Read the items of an array up to and with its closing bracket. -/
def readItems : Nat → Nat → Bool → Cursor → Reading (List Json)
  | 0, _, _, c => c.fail .tooDeep
  | fuel + 1, depth, first, c =>
    match readItemStart first c with
    | .error e => .error e
    | .ok (false, c) => .ok ([], c.advance)
    | .ok (true, c) =>
      match readValue fuel depth c with
      | .error e => .error e
      | .ok (v, c) => (readItems fuel depth false c).map fun r => (v :: r.1, r.2)

/-- Read the members of an object up to and with its closing brace. -/
def readMembers : Nat → Nat → Bool → List (String × Json) → Cursor →
    Reading (List (String × Json))
  | 0, _, _, _, c => c.fail .tooDeep
  | fuel + 1, depth, first, acc, c =>
    match readMemberStart first c with
    | .error e => .error e
    | .ok (false, c) => .ok (acc, c.advance)
    | .ok (true, c) =>
      match readText c.advance with
      | .error e => .error e
      | .ok (key, c) =>
        match readColon c with
        | .error e => .error e
        | .ok c =>
          match readValue fuel depth c with
          | .error e => .error e
          | .ok (v, c) => readMembers fuel depth false (Keyed.insert key v acc) c

end

/-- Check that only blanks are left. -/
def readEnd (c : Cursor) : Except ReadError Unit :=
  let c := c.skipSpace
  match c.peek? with
  | none => .ok ()
  | some _ => c.failAhead .trailingCharacters

/-- Steps that reading takes at most: two for each byte. -/
def stepBound (c : Cursor) : Nat := 2 * c.rest.length + 2

/-- Read bytes that hold one value. -/
def read (bytes : List UInt8) : Except ReadError Json :=
  let c := Cursor.start bytes
  match readValue (stepBound c) maxDepth c with
  | .error e => .error e
  | .ok (v, c) => (readEnd c).map fun _ => v

/-- Read a text that holds one value. -/
def ofText (s : String) : Except ReadError Json := read (Utf8.encode s)

end IndexKeeper.Json
