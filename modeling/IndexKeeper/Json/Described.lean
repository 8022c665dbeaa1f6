import IndexKeeper.Json.Basic
import IndexKeeper.Text.Described

/-!
# Described values

A value as an error describes it: a scalar by its type and itself, an array or an object by its
type alone.
-/

namespace IndexKeeper

/-- A number as an error describes it. -/
def Number.describe : Number → String
  | .int i => "integer `" ++ toString i ++ "`"
  | .real x => "floating point `" ++ x.jsonText ++ "`"

/-- A value as an error describes it. -/
def Json.describe : Json → String
  | null => "null"
  | bool true => "boolean `true`"
  | bool false => "boolean `false`"
  | num n => n.describe
  | str s => describeText s
  | arr _ => "sequence"
  | obj _ => "map"

end IndexKeeper
