import IndexKeeper.Fault
import IndexKeeper.Json.Reader
import IndexKeeper.Json.Record
import IndexKeeper.Json.Shape
import IndexKeeper.Text.Blank

/-!
# Declared aliases

An alias that a template declares.  Its body as sent has the routing written out for indexing and
searching, which is how a server stores it.
-/

namespace IndexKeeper

/-- An alias of a template. -/
structure Alias where
  /-- The query that limits the documents seen through the alias, as JSON text. -/
  filter : Option String := none
  isWriteIndex : Bool := false
  routing : Option String := none
  indexRouting : Option String := none
  searchRouting : Option String := none
  deriving DecidableEq, Repr

namespace Alias

/-- The members of a declared alias, in order. -/
def fields : List String :=
  ["filter", "is_write_index", "routing", "index_routing", "search_routing"]

/-- The alias that a value declares. -/
def ofJson? (v : Json) : Option Alias := do
  let r ← Json.Record.read? fields v
  let filter ← r.optional? "filter" Json.text?
  let isWriteIndex ← r.default? "is_write_index" Json.bool? false
  let routing ← r.optional? "routing" Json.text?
  let indexRouting ← r.optional? "index_routing" Json.text?
  let searchRouting ← r.optional? "search_routing" Json.text?
  return { filter, isWriteIndex, routing, indexRouting, searchRouting }

/-- The shape of the values that declare an alias. -/
def shape : Json.Shape :=
  .record "AliasSpec" []
    [("filter", .optional .text), ("is_write_index", .bool), ("routing", .optional .text),
      ("index_routing", .optional .text), ("search_routing", .optional .text)]

/-- A member for a text, if there is one. -/
def member (name : String) (value : Option String) : List (String × Json) :=
  (value.map fun s => (name, Json.str s)).toList

/-- The member that makes the alias the one to write through. -/
def writeMember (a : Alias) : List (String × Json) :=
  if a.isWriteIndex then [("is_write_index", .bool true)] else []

/-- The alias as declared, without what is not set. -/
def toJson (a : Alias) : Json :=
  .ofMembers <| member "filter" a.filter ++ a.writeMember ++ member "routing" a.routing ++
    member "index_routing" a.indexRouting ++ member "search_routing" a.searchRouting

/-- The filter as a member of the body; a blank filter is none. -/
def filterMember (name : String) (a : Alias) : Except Malformed (List (String × Json)) :=
  match a.filter with
  | none => .ok []
  | some text =>
    if isBlankText text then .ok []
    else match Json.ofText text with
      | .ok v => .ok [("filter", v)]
      | .error e => .error (.aliasFilter name e)

/-- The body of the alias of a name, as sent. -/
def body (name : String) (a : Alias) : Except Malformed Json :=
  (filterMember name a).map fun filter =>
    .ofMembers <| filter ++ a.writeMember ++
      member "index_routing" (a.indexRouting <|> a.routing) ++
      member "search_routing" (a.searchRouting <|> a.routing)

end Alias

end IndexKeeper
