import IndexKeeper.Settings.Tree

/-!
# Expansion of dotted keys

Settings may be written nested, with dotted keys, or mixed.  `Json.expandMembers` brings members
into the nested form: every key is split at its dots and its value is put at that path.  Maps that
meet are merged; a leaf that meets anything is a conflict, reported with the key that brought it.
-/

namespace IndexKeeper.Json

mutual

/-- Put a value under a key.  A map that meets a map is merged into it, member by member; nothing
else may be there already. -/
def mergeAt (key : String) (value : Json) (ms : List (String × Json)) :
    Option (List (String × Json)) :=
  match value with
  | obj incoming =>
    match Keyed.get? key ms with
    | none => some (Keyed.insert key (obj incoming) ms)
    | some (obj existing) =>
      (mergeAll incoming existing).map fun merged => Keyed.insert key (obj merged) ms
    | some _ => none
  | leaf =>
    match Keyed.get? key ms with
    | none => some (Keyed.insert key leaf ms)
    | some _ => none

/-- Put members into members, one after the other. -/
def mergeAll : List (String × Json) → List (String × Json) → Option (List (String × Json))
  | [], ms => some ms
  | (key, v) :: rest, ms => (mergeAt key v ms).bind (mergeAll rest)

end

/-- Put a value at a path, with maps on the way to it. -/
def mergeAtPath (value : Json) : Path → List (String × Json) → Option (List (String × Json))
  | [], _ => none
  | [key], ms => mergeAt key value ms
  | key :: rest, ms =>
    match Keyed.get? key ms with
    | none => (mergeAtPath value rest []).map fun below => Keyed.insert key (obj below) ms
    | some (obj existing) =>
      (mergeAtPath value rest existing).map fun below => Keyed.insert key (obj below) ms
    | some _ => none

mutual

/-- A value with the dotted keys of its objects expanded; arrays are left as they are.  The error
is the key that conflicts with an earlier one. -/
def expand : Json → Except String Json
  | obj ms => (expandMembers ms []).map obj
  | leaf => .ok leaf

/-- Members with their keys expanded, put into members one after the other. -/
def expandMembers : List (String × Json) → List (String × Json) →
    Except String (List (String × Json))
  | [], ms => .ok ms
  | (key, v) :: rest, ms =>
    match expand v with
    | .error conflict => .error conflict
    | .ok v =>
      match mergeAtPath v (Path.ofDotted key) ms with
      | none => .error key
      | some ms => expandMembers rest ms

end

end IndexKeeper.Json
