import IndexKeeper.Resource

/-!
# Metrics

What is counted, and the names it is counted under: the calls that change the cluster, by kind and
operation, and the passes of a controller, how many failed and how long they took.
-/

namespace IndexKeeper

/-- The operations that change the cluster. -/
inductive Mutation
  | create
  | updateSettings
  | updateSchema
  | delete
  deriving DecidableEq, Repr

/-- The word for an operation in the names of metrics. -/
def Mutation.label : Mutation → String
  | .create => "create"
  | .updateSettings => "update_settings"
  | .updateSchema => "update_schema"
  | .delete => "delete"

/-- What is counted. -/
inductive Metric
  | mutations (kind : Kind) (operation : Mutation)
  | passes (kind : Kind)
  | failures (kind : Kind)
  /-- Durations are recorded; the count is the number of records. -/
  | durations (kind : Kind)
  deriving DecidableEq, Repr

/-- The name that a metric is reported under, with its label if it has one. -/
def Metric.name : Metric → String
  | .mutations kind operation =>
    "esobj_" ++ kind.label ++ "_remote_mutations_total\x7boperation=" ++ operation.label ++ "\x7d"
  | .passes kind => "esobj_" ++ kind.label ++ "_reconciliations_total"
  | .failures kind => "esobj_" ++ kind.label ++ "_reconciliation_errors_total"
  | .durations kind => "esobj_" ++ kind.label ++ "_reconciliation_duration_seconds"

end IndexKeeper
