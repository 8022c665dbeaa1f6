import IndexKeeper.Json.Printer
import IndexKeeper.Settings.Path

/-!
# Settings trees

A tree is an object as a root: its maps are the objects below it, and everything else, arrays
included, is a leaf.  The view of a tree is `lookup`.  `leafPaths` lists the paths of its leaves in
order, `canonical?` gives the text by which leaves are compared, and `remove` takes out what is at
a path, along with the maps on the way that are left empty.
-/

namespace IndexKeeper

namespace Json

/-- What is below a value at a path. -/
def lookup : Path → Json → Option Json
  | [], v => some v
  | key :: rest, obj ms => (Keyed.get? key ms).bind (lookup rest)
  | _ :: _, _ => none

mutual

/-- The paths of the leaves of a value, in order. -/
def leafPaths : Json → List Path
  | obj ms => memberLeafPaths ms
  | _ => [[]]

/-- The paths of the leaves of members, in order. -/
def memberLeafPaths : List (String × Json) → List Path
  | [] => []
  | (key, v) :: rest => (leafPaths v).map (key :: ·) ++ memberLeafPaths rest

end

/-- Take out what members hold at a path, along with the maps on the way that are left empty. -/
def removeAt : Path → List (String × Json) → Option Json × List (String × Json)
  | [], ms => (none, ms)
  | [key], ms => (Keyed.get? key ms, Keyed.erase key ms)
  | key :: rest, ms =>
    match Keyed.get? key ms with
    | some (obj children) =>
      let (removed, left) := removeAt rest children
      (removed, if left.isEmpty then Keyed.erase key ms else Keyed.insert key (obj left) ms)
    | _ => (none, ms)

end Json

/-- The root of a tree of settings or of a schema document. -/
structure Tree where
  members : List (String × Json)

namespace Tree

/-- The tree without anything in it. -/
def empty : Tree := ⟨[]⟩

instance : Inhabited Tree := ⟨empty⟩

/-- The tree as a value. -/
def toJson (t : Tree) : Json := .obj t.members

/-- Whether the root has no members. -/
def isEmpty (t : Tree) : Bool := t.members.isEmpty

/-- What is under a key of the root. -/
def get? (t : Tree) (key : String) : Option Json := Keyed.get? key t.members

/-- What is at a path; nothing is at the path without keys. -/
def lookup (t : Tree) : Path → Option Json
  | [] => none
  | key :: rest => (t.get? key).bind (Json.lookup rest)

/-- The paths of the leaves, in order. -/
def leafPaths (t : Tree) : List Path := Json.memberLeafPaths t.members

/-- The text by which what is at a path is compared. -/
def canonical? (t : Tree) (p : Path) : Option String := (t.lookup p).map Json.canonicalText

/-- What is at a path, and the tree without it. -/
def remove (t : Tree) (p : Path) : Option Json × Tree :=
  let (removed, left) := Json.removeAt p t.members
  (removed, ⟨left⟩)

/-- Every object of the tree has its keys in order. -/
def Ordered (t : Tree) : Prop := t.toJson.Ordered

end Tree

end IndexKeeper
