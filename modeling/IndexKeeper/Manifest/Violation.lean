/-!
# Violations

What breaks a rule of a declaration, and at which field.  Violations of one field are reported in
one line, fields in the order of their paths.  A violation without a message of its own is reported
by its code.
-/

namespace IndexKeeper

/-- A broken rule: the field, the code of the rule, and its message if it has one. -/
structure Violation where
  path : List String
  code : String
  message : Option String
  deriving DecidableEq, Repr

namespace Violation

/-- The field as written. -/
def field (v : Violation) : String := String.intercalate "." v.path

/-- The wording of one violation. -/
def wording (v : Violation) : String :=
  v.message.getD ("Validation error: " ++ v.code)

/-- Put a violation behind those of its field, or as a field of its own in order. -/
def group (v : Violation) : List (String × List Violation) → List (String × List Violation)
  | [] => [(v.field, [v])]
  | (field, vs) :: rest =>
    if field = v.field then (field, vs ++ [v]) :: rest
    else if v.field < field then (v.field, [v]) :: (field, vs) :: rest
    else (field, vs) :: group v rest

/-- Violations by field, fields in order, those of a field in the order found. -/
def byField (found : List Violation) : List (String × List Violation) :=
  found.foldl (fun groups v => group v groups) []

/-- The wording of all violations, a line for each field. -/
def report (found : List Violation) : String :=
  String.intercalate "\n" ((byField found).map fun (field, vs) =>
    field ++ ": " ++ String.intercalate ", " (vs.map wording))

/-- Whether the wording is settled: one field broke rules, and each has a message of its own. -/
def isSettled (found : List Violation) : Bool :=
  (byField found).length == 1 && found.all fun v => v.message.isSome

end Violation

end IndexKeeper
