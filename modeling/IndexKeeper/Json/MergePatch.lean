import IndexKeeper.Json.Basic

/-!
# Merge patches

A merge patch that is an object changes the members it names: a null removes the member, an object
patches it, and anything else replaces it.  A patch that is no object replaces the whole value.
`overlay` is the same without removal: it lays an object over another, nulls included.
-/

namespace IndexKeeper.Json

mutual

/-- The value after a merge patch. -/
def mergePatch (target : Json) : Json → Json
  | obj patch => obj (mergeMembers ((target.members?).getD []) patch)
  | patch => patch

/-- The members after the members of a merge patch. -/
def mergeMembers (target : List (String × Json)) : List (String × Json) → List (String × Json)
  | [] => target
  | (k, v) :: rest =>
    let changed := match v with
      | null => Keyed.erase k target
      | v => Keyed.insert k (mergePatch ((Keyed.get? k target).getD null) v) target
    mergeMembers changed rest

end

mutual

/-- One value laid over another: objects are merged, anything else is replaced. -/
def overlay (below : Json) : Json → Json
  | obj top => match below with
    | obj members => obj (overlayMembers members top)
    | _ => obj top
  | top => top

/-- Members laid over members. -/
def overlayMembers (below : List (String × Json)) : List (String × Json) → List (String × Json)
  | [] => below
  | (k, v) :: rest =>
    let laid := match Keyed.get? k below with
      | none => v
      | some old => overlay old v
    overlayMembers (Keyed.insert k laid below) rest

end

end IndexKeeper.Json
