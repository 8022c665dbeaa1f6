import IndexKeeper.Fault
import IndexKeeper.Settings.Expand

/-!
# Trees from documents

A settings tree is built from an object with its dotted keys expanded; a document tree takes the
object as it is, because the dots in a schema document are part of field names.
-/

namespace IndexKeeper.Tree

/-- The settings tree of an object. -/
def ofSettings? : Json → Except Malformed Tree
  | .obj ms =>
    match Json.expandMembers ms [] with
    | .ok expanded => .ok ⟨expanded⟩
    | .error key => .error (.conflict key)
  | _ => .error .settingsRoot

/-- The tree of a document. -/
def ofDocument? : Json → Except Malformed Tree
  | .obj ms => .ok ⟨ms⟩
  | _ => .error .documentRoot

end IndexKeeper.Tree
