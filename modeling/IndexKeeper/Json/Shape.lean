import IndexKeeper.Json.Described
import IndexKeeper.Json.Printer
import IndexKeeper.Json.ReadError
import IndexKeeper.Keyed

/-!
# Shapes of values

What a value has to be in order to be read, and where its text stops being that.  A value is
measured on its text without blanks: every value in it starts at some byte, and a misfit is
reported with the byte up to which the text was read when it showed.

* A scalar of another type is read before it is refused; an array or an object is refused where it
  starts.
* A record is an object, or an array of its fields in order.  Members that it does not name are
  passed over; in an array nothing may follow the last field.
* That a field is missing shows at the end of the record.

`Shape.misfit?` is one recursion over the shape.  It looks at every field and keeps the misfit that
is met first, so the order in which a shape names its fields does not matter.
-/

namespace IndexKeeper.Json

/-- What a value has to be. -/
inductive Shape
  | any
  | bool
  | text
  /-- A text that a rule accepts; of another text the rule says what is wrong with it. -/
  | textOf (expected : String) (problem? : String → Option String)
  /-- A signed integer of so many bits. -/
  | integer (bits : Nat)
  /-- One of two words, alone or as the only key of an object with nothing under it. -/
  | word (one other : String)
  /-- A value of the shape, or null. -/
  | optional (shape : Shape)
  | list (items : Shape)
  | entries (values : Shape)
  /-- A record, by its name, with the fields that have to be there and the shapes of all. -/
  | record (name : String) (required : List String) (fields : List (String × Shape))
  /-- A record without required fields that is not written as an array. -/
  | object (name : String) (fields : List (String × Shape))

/-- Where a value is not of a shape: the problem, and the byte up to which the text was read. -/
structure Misfit where
  problem : ReadProblem
  place : Nat
  deriving DecidableEq, Repr

/-- Of two misfits the one that is met first. -/
def Misfit.first : Option Misfit → Option Misfit → Option Misfit
  | none, m => m
  | m, none => m
  | some a, some b => some (if b.place < a.place then b else a)

/-! ## Places in a text -/

/-- A value, and the byte at which it starts in the text around it. -/
structure Placed where
  start : Nat
  value : Json

/-- The number of bytes that a value takes. -/
def size (v : Json) : Nat := v.text.utf8ByteSize

namespace Placed

/-- The byte at which a value ends. -/
def stop (p : Placed) : Nat := p.start + p.value.size

/-- The places of items, the first one starting at a byte. -/
def ofItems (start : Nat) : List Json → List Placed
  | [] => []
  | v :: rest =>
    let p : Placed := ⟨start, v⟩
    p :: ofItems (p.stop + 1) rest

/-- The places of members by their keys, the first key starting at a byte. -/
def ofMembers (start : Nat) : List (String × Json) → List (String × Placed)
  | [] => []
  | (key, v) :: rest =>
    let p : Placed := ⟨start + (str key).size + 1, v⟩
    (key, p) :: ofMembers (p.stop + 1) rest

/-- The places of the items of an array. -/
def items (p : Placed) : List Placed :=
  match p.value with
  | arr vs => ofItems (p.start + 1) vs
  | _ => []

/-- The places of the members of an object. -/
def members (p : Placed) : List (String × Placed) :=
  match p.value with
  | obj ms => ofMembers (p.start + 1) ms
  | _ => []

/-! ## Misfits of one value -/

/-- A value of another type than the one expected. -/
def mistyped (p : Placed) (expected : String) : Misfit :=
  ⟨.wrongType p.value.describe expected,
    match p.value with
    | arr _ | obj _ => p.start
    | _ => p.stop⟩

/-- The misfit of a value that should be an integer of so many bits. -/
def integerMisfit? (bits : Nat) (p : Placed) : Option Misfit :=
  let expected := "i" ++ toString bits
  match p.value with
  | num (.int _) =>
    if (p.value.signed? bits).isSome then none
    else some ⟨.wrongValue p.value.describe expected, p.stop⟩
  | _ => some (p.mistyped expected)

/-- The misfit of a value that should be one of two words. -/
def wordMisfit? (one other : String) (p : Placed) : Option Misfit :=
  let unknown (found : String) (place : Nat) : Option Misfit :=
    if found = one ∨ found = other then none else some ⟨.unknownWord found one other, place⟩
  match p.value, p.members with
  | str s, _ => unknown s p.stop
  | obj _, [] => some ⟨.noValue, p.start + 2⟩
  | obj _, (word, q) :: rest =>
    match unknown word (q.start - 1), q.value, rest with
    | some m, _, _ => some m
    | none, null, [] => none
    | none, null, _ => some ⟨.noValue, q.stop⟩
    | none, _, _ => some (q.mistyped "unit")
  | _, _ => some ⟨.noValue, p.start + 1⟩

/-- The misfit of an object that lacks a required field. -/
def missing? (required : List String) (p : Placed) : Option Misfit :=
  (required.find? fun name => (p.value.get? name).isNone).map fun name =>
    ⟨.missingField name, p.stop⟩

/-- The misfit of an array with fewer items than the fields up to the last required one, or with
more than there are fields. -/
def lengthMisfit? (name : String) (required fields : List String) (p : Placed) : Option Misfit :=
  let given := p.items
  match given[fields.length]? with
  | some q => some ⟨.trailingCharacters, q.start + 1⟩
  | none =>
    ((fields.zipIdx.drop given.length).find? fun (field, _) => required.contains field).map
      fun (_, index) =>
        ⟨.wrongLength index (name ++ " with " ++ toString fields.length ++ " elements"), p.stop⟩

/-- The misfit of an array in the place of a record that is not written as one. -/
def notObject (name : String) (p : Placed) : Misfit :=
  ⟨.wrongType p.value.describe name, p.start + if p.items.isEmpty then 2 else 1⟩

end Placed

/-! ## Misfits of a shape -/

namespace Shape

mutual

/-- Where a value is not of a shape, if it is not. -/
def misfit? : Shape → Placed → Option Misfit
  | any, _ => none
  | bool, p =>
    match p.value with
    | .bool _ => none
    | _ => some (p.mistyped "a boolean")
  | text, p =>
    match p.value with
    | .str _ => none
    | _ => some (p.mistyped "a string")
  | textOf expected problem?, p =>
    match p.value with
    | .str s => (problem? s).map fun problem => ⟨.described problem, p.stop⟩
    | _ => some (p.mistyped expected)
  | integer bits, p => p.integerMisfit? bits
  | word one other, p => p.wordMisfit? one other
  | optional shape, p =>
    match p.value with
    | .null => none
    | _ => misfit? shape p
  | list shape, p =>
    match p.value with
    | .arr _ => p.items.findSome? fun q => misfit? shape q
    | _ => some (p.mistyped "a sequence")
  | entries shape, p =>
    match p.value with
    | .obj _ => p.members.findSome? fun entry => misfit? shape entry.2
    | _ => some (p.mistyped "a map")
  | record name required fields, p =>
    let expected := "struct " ++ name
    match p.value with
    | .obj _ =>
      let given := p.members
      Misfit.first (fieldMisfit? fields fun field => Keyed.get? field given) (p.missing? required)
    | .arr _ =>
      let names := Keyed.keys fields
      let given := names.zip p.items
      Misfit.first (fieldMisfit? fields fun field => Keyed.get? field given)
        (p.lengthMisfit? expected required names)
    | _ => some (p.mistyped expected)
  | object name fields, p =>
    match p.value with
    | .obj _ =>
      let given := p.members
      fieldMisfit? fields fun field => Keyed.get? field given
    | .arr _ => some (p.notObject name)
    | _ => some (p.mistyped name)

/-- The first misfit among the fields that are given. -/
def fieldMisfit? : List (String × Shape) → (String → Option Placed) → Option Misfit
  | [], _ => none
  | (name, shape) :: rest, field? =>
    Misfit.first ((field? name).bind fun p => misfit? shape p) (fieldMisfit? rest field?)

end

/-- The error of reading the text of a value that is not of a shape.  The text is one line. -/
def readError? (shape : Shape) (v : Json) : Option ReadError :=
  (shape.misfit? ⟨0, v⟩).map fun m => ⟨m.problem, 1, m.place⟩

end Shape

end IndexKeeper.Json
