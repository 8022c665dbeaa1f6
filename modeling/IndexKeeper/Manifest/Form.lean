import IndexKeeper.Json.Record
import IndexKeeper.Json.Shape
import IndexKeeper.Manifest.Violation

/-!
# Forms of declared settings

The settings of a declaration are described by a table of forms: a field holds an integer, a text,
or a group of further fields, and a rule says which values are allowed.  Every field is optional.
A decoded group lists the fields that are set, so reading (`Form.read?`), writing back
(`Entry.toJson`) and checking (`Form.check`) are each one recursion over the table.
-/

namespace IndexKeeper

/-- Which integers are allowed, and what is said of the others. -/
structure Range where
  low : Option Int := none
  high : Option Int := none
  message : Option String := none

/-- Which texts are allowed, and the code under which others are reported. -/
structure Choice where
  allowed : List String
  code : String

/-- What a field of a declaration may hold. -/
inductive Form
  /-- A signed integer of so many bits, within a range if one is given. -/
  | integer (bits : Nat) (range : Option Range)
  | text (choice : Option Choice)
  /-- A record of fields, by its name. -/
  | group (name : String) (fields : List (String × Form))

/-- What a field of a declaration holds.  A group lists the fields that are set. -/
inductive Entry
  | integer (value : Int)
  | text (value : String)
  | group (fields : List (String × Entry))

namespace Range

/-- Whether an integer is allowed. -/
def allows (r : Range) (i : Int) : Bool :=
  r.low.all (fun low => low ≤ i) && r.high.all (fun high => i ≤ high)

end Range

/-- What is said of a value that is not one of the allowed ones. -/
def Choice.complaint (c : Choice) (value : String) : String :=
  "'" ++ value ++ "' must be one of: " ++ String.intercalate ", " c.allowed

namespace Form

mutual

/-- The entry that a value gives for a form. -/
def read? : Form → Json → Option Entry
  | integer bits _, v => (v.signed? bits).map .integer
  | text _, v => v.text?.map .text
  | group _ fields, v =>
    (Json.Record.read? (Keyed.keys fields) v).bind fun r => (readFields? fields r).map .group

/-- The fields of a record that are set; a null counts as not set. -/
def readFields? : List (String × Form) → Json.Record → Option (List (String × Entry))
  | [], _ => some []
  | (name, form) :: rest, r =>
    match r.field? name with
    | none | some .null => readFields? rest r
    | some v =>
      match read? form v, readFields? rest r with
      | some entry, some entries => some ((name, entry) :: entries)
      | _, _ => none

end

mutual

/-- The shape of the values that a form reads. -/
def shape : Form → Json.Shape
  | integer bits _ => .integer bits
  | text _ => .text
  | group name fields => .record name [] (fieldShapes fields)

/-- The shapes of fields, each of which may be left out. -/
def fieldShapes : List (String × Form) → List (String × Json.Shape)
  | [] => []
  | (name, form) :: rest => (name, .optional (shape form)) :: fieldShapes rest

end

mutual

/-- What an entry breaks of its form, at a path. -/
def check (path : List String) : Form → Entry → List Violation
  | integer _ (some range), .integer i =>
    if range.allows i then [] else [⟨path, "range", range.message⟩]
  | text (some choice), .text s =>
    if choice.allowed.contains s then [] else [⟨path, choice.code, some (choice.complaint s)⟩]
  | group _ fields, .group entries => checkFields path fields entries
  | _, _ => []

/-- What the fields of a group break, field by field. -/
def checkFields (path : List String) :
    List (String × Form) → List (String × Entry) → List Violation
  | [], _ => []
  | (name, form) :: rest, entries =>
    (match Keyed.get? name entries with
      | none => []
      | some entry => check (path ++ [name]) form entry) ++ checkFields path rest entries

end

end Form

namespace Entry

mutual

/-- An entry as a value. -/
def toJson : Entry → Json
  | integer i => .ofInt i
  | text s => .str s
  | group fields => .ofMembers (toMembers fields)

/-- The fields of a group as members. -/
def toMembers : List (String × Entry) → List (String × Json)
  | [] => []
  | (name, entry) :: rest => (name, toJson entry) :: toMembers rest

end

end Entry

end IndexKeeper
